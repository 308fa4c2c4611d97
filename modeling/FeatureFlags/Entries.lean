/-!
# Ordered entries

A list of entries under distinct keys.  Putting a key that is present keeps its place and its first
spelling and replaces the value; a new key comes last.  Reading is `List.lookup`, and
`lookup_put` says what a put does to it.
-/

set_option autoImplicit false

namespace FeatureFlags.Entries

universe u v

variable {Name : Type u} {Item : Type v} [BEq Name]

def put (name : Name) (item : Item) : List (Name × Item) → List (Name × Item)
  | [] => [(name, item)]
  | (present, old) :: rest =>
      if name == present then (present, item) :: rest else (present, old) :: put name item rest

def putAll (pairs entries : List (Name × Item)) : List (Name × Item) :=
  pairs.foldl (fun entries pair => put pair.1 pair.2 entries) entries

/-- The entries that a list of pairs leaves: of equal keys the first spelling and the last value. -/
def ofPairs (pairs : List (Name × Item)) : List (Name × Item) :=
  putAll pairs []

def contains (name : Name) (entries : List (Name × Item)) : Bool :=
  (entries.lookup name).isSome

theorem lookup_put [PartialEquivBEq Name] (name other : Name) (item : Item)
    (entries : List (Name × Item)) :
    (put name item entries).lookup other =
      if other == name then some item else entries.lookup other := by
  induction entries with
  | nil =>
      rw [put, List.lookup_cons, List.lookup_nil]
      cases other == name <;> rfl
  | cons entry rest inductionHypothesis =>
      obtain ⟨present, old⟩ := entry
      unfold put
      by_cases found : (name == present) = true
      · have beside : (other == name) = (other == present) := BEq.congr_right found
        rw [if_pos found, List.lookup_cons, List.lookup_cons, beside]
        cases other == present <;> rfl
      · rw [if_neg found, List.lookup_cons, List.lookup_cons, inductionHypothesis]
        by_cases atPresent : (other == present) = true
        · have apart : (other == name) = false := by
            rw [Bool.eq_false_iff]
            exact fun same => found (BEq.trans (BEq.symm same) atPresent)
          rw [atPresent, apart]
          rfl
        · rw [Bool.eq_false_iff.mpr atPresent]

end FeatureFlags.Entries
