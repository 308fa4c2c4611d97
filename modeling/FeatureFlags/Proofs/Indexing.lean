import FeatureFlags.Proofs.Entries
import Mathlib.Data.List.Induction

/-!
# Indexes of a list

An index puts the items of a list under their names one after the other.  Names that count as one
need not be equal, and a name need not count as one with itself.  Under a name the index has the
last item of a name that counts as one with it (`lookup_indexBy_iff`), and two indexes of one list
by names that tell the same items apart have the same items (`LastUnder.transfer`,
`length_indexBy_eq`).
-/

set_option autoImplicit false

namespace FeatureFlags.Entries

universe u v

variable {Name : Type u} {Item : Type v} [BEq Name]

def indexBy (nameOf : Item → Name) (items : List Item) : List (Name × Item) :=
  ofPairs (items.map fun item => (nameOf item, item))

/-- The item at a place is the last one whose name counts as one with the given name. -/
structure LastUnder (nameOf : Item → Name) (items : List Item) (name : Name) (place : Nat)
    (item : Item) : Prop where
  listed : items[place]? = some item
  named : (name == nameOf item) = true
  last : ∀ later other, place < later → items[later]? = some other → (name == nameOf other) = false

/-- The entries hold the last item under each name, each once, and nothing else. -/
structure Indexes (nameOf : Item → Name) (items : List Item) (entries : List (Name × Item)) :
    Prop where
  lookup_iff : ∀ name item,
    entries.lookup name = some item ↔ ∃ place, LastUnder nameOf items name place item
  own : ∀ entry ∈ entries,
    (entry.1 == nameOf entry.2) = true ∧ entries.lookup entry.1 = some entry.2
  apart : entries.Pairwise fun entry other => (entry.1 == other.1) = false

section Puts

variable [PartialEquivBEq Name]

/-- Putting pairs one after the other makes the last of them count. -/
theorem lookup_putAll (pairs entries : List (Name × Item)) (name : Name) :
    (putAll pairs entries).lookup name = (pairs.reverse ++ entries).lookup name := by
  induction pairs generalizing entries with
  | nil => rfl
  | cons pair pairs inductionHypothesis =>
      have first : putAll (pair :: pairs) entries = putAll pairs (put pair.1 pair.2 entries) := rfl
      rw [first, inductionHypothesis, List.reverse_cons, List.append_assoc, List.lookup_append,
        List.lookup_append, lookup_put, List.singleton_append, List.lookup_cons]
      cases name == pair.1 <;> rfl

theorem lookup_indexBy (nameOf : Item → Name) (items : List Item) (name : Name) :
    (indexBy nameOf items).lookup name =
      (items.reverse.map fun item => (nameOf item, item)).lookup name := by
  rw [indexBy, ofPairs, lookup_putAll, List.append_nil, List.map_reverse]

theorem isSome_lookup_indexBy_iff {nameOf : Item → Name} {items : List Item} {name : Name} :
    ((indexBy nameOf items).lookup name).isSome = true ↔
      ∃ item ∈ items, (name == nameOf item) = true := by
  rw [lookup_indexBy, List.lookup_isSome_iff]
  constructor
  · rintro ⟨pair, listed, same⟩
    obtain ⟨item, within, rfl⟩ := List.mem_map.mp listed
    exact ⟨item, List.mem_reverse.mp within, same⟩
  · rintro ⟨item, within, same⟩
    exact ⟨_, List.mem_map_of_mem (List.mem_reverse.mpr within), same⟩

omit [PartialEquivBEq Name] in
theorem lastUnder_cons_iff {nameOf : Item → Name} {head item : Item} {items : List Item}
    {name : Name} :
    (∃ place, LastUnder nameOf (head :: items) name place item) ↔
      (∃ place, LastUnder nameOf items name place item) ∨
        (∀ other ∈ items, (name == nameOf other) = false) ∧
          (name == nameOf head) = true ∧ head = item := by
  constructor
  · rintro ⟨place, listed, named, last⟩
    cases place with
    | zero =>
        cases listed
        refine .inr ⟨fun other within => ?_, named, rfl⟩
        obtain ⟨later, found⟩ := List.mem_iff_getElem?.mp within
        exact last (later + 1) other (Nat.succ_pos later) found
    | succ place =>
        exact .inl ⟨place, listed, named, fun later other after found =>
          last (later + 1) other (Nat.succ_lt_succ after) found⟩
  · rintro (⟨place, listed, named, last⟩ | ⟨none, named, rfl⟩)
    · refine ⟨place + 1, listed, named, fun later other after found => ?_⟩
      obtain ⟨later, rfl⟩ := Nat.exists_eq_succ_of_ne_zero (Nat.ne_zero_of_lt after)
      exact last later other (Nat.lt_of_succ_lt_succ after) found
    · refine ⟨0, rfl, named, fun later other after found => ?_⟩
      obtain ⟨later, rfl⟩ := Nat.exists_eq_succ_of_ne_zero (Nat.ne_zero_of_lt after)
      exact none other (List.mem_of_getElem? found)

theorem lookup_indexBy_iff {nameOf : Item → Name} {items : List Item} {name : Name} {item : Item} :
    (indexBy nameOf items).lookup name = some item ↔
      ∃ place, LastUnder nameOf items name place item := by
  rw [lookup_indexBy]
  induction items with
  | nil =>
      refine ⟨nofun, ?_⟩
      rintro ⟨place, ⟨⟩, -, -⟩
  | cons head items inductionHypothesis =>
      have absent : (items.reverse.map fun item => (nameOf item, item)).lookup name = none ↔
          ∀ other ∈ items, (name == nameOf other) = false := by
        rw [← Option.not_isSome_iff_eq_none, ← lookup_indexBy, isSome_lookup_indexBy_iff]
        simp
      rw [List.reverse_cons, List.map_append, List.lookup_append, Option.or_eq_some_iff,
        inductionHypothesis, absent, lastUnder_cons_iff]
      refine or_congr_right (and_congr_right fun _ => ?_)
      rw [List.map_singleton, List.lookup_cons]
      cases name == nameOf head <;> simp

/-! ## Nothing else -/

theorem pairwise_put {name : Name} {item : Item} {entries : List (Name × Item)}
    (apart : (entries.map Prod.fst).Pairwise fun name other => (name == other) = false) :
    ((put name item entries).map Prod.fst).Pairwise fun name other => (name == other) = false := by
  rw [names_put]
  split
  · exact apart
  next absent =>
      rw [List.lookup_isSome_iff] at absent
      refine List.pairwise_append.mpr ⟨apart, List.pairwise_singleton _ _, ?_⟩
      intro other within last here
      obtain ⟨entry, listed, rfl⟩ := List.mem_map.mp within
      rw [List.mem_singleton.mp here, BEq.comm, Bool.eq_false_iff]
      exact fun same => absent ⟨entry, listed, same⟩

theorem pairwise_putAll (pairs : List (Name × Item)) {entries : List (Name × Item)}
    (apart : (entries.map Prod.fst).Pairwise fun name other => (name == other) = false) :
    ((putAll pairs entries).map Prod.fst).Pairwise fun name other => (name == other) = false := by
  induction pairs generalizing entries with
  | nil => exact apart
  | cons pair pairs inductionHypothesis => exact inductionHypothesis (pairwise_put apart)

omit [PartialEquivBEq Name] in
theorem lookup_of_apart {entry : Name × Item} {entries : List (Name × Item)}
    (apart : entries.Pairwise fun entry other => (other.1 == entry.1) = false)
    (listed : entry ∈ entries) (named : (entry.1 == entry.1) = true) :
    entries.lookup entry.1 = some entry.2 := by
  induction apart with
  | nil => cases listed
  | cons differs _ inductionHypothesis =>
      rw [List.lookup_cons]
      rcases List.mem_cons.mp listed with rfl | later
      · rw [named]
      · rw [differs entry later]
        exact inductionHypothesis later

/-- The index of a list all of whose names count as one with themselves. -/
theorem indexes_indexBy {nameOf : Item → Name} {items : List Item}
    (named : ∀ item ∈ items, (nameOf item == nameOf item) = true) :
    Indexes nameOf items (indexBy nameOf items) := by
  have apart : (indexBy nameOf items).Pairwise fun entry other => (entry.1 == other.1) = false :=
    List.pairwise_map.mp (pairwise_putAll _ List.Pairwise.nil)
  have own : ∀ entry ∈ indexBy nameOf items, (entry.1 == nameOf entry.2) = true := by
    refine forall_mem_ofPairs (fun name item => (name == nameOf item) = true) ?_ ?_
    · exact fun name other item same own => BEq.trans (BEq.symm same) own
    · intro pair listed
      obtain ⟨item, within, rfl⟩ := List.mem_map.mp listed
      exact named item within
  refine ⟨fun name item => lookup_indexBy_iff, fun entry listed => ⟨own entry listed, ?_⟩, apart⟩
  refine lookup_of_apart (apart.imp fun differs => ?_) listed ?_
  · rw [BEq.comm]
    exact differs
  · exact BEq.trans (own entry listed) (BEq.symm (own entry listed))

end Puts

/-! ## Two indexes of one list -/

theorem length_put (name : Name) (item : Item) (entries : List (Name × Item)) :
    (put name item entries).length =
      if (entries.lookup name).isSome then entries.length else entries.length + 1 := by
  rw [← List.length_map Prod.fst, names_put]
  split <;> simp

section Two

variable [PartialEquivBEq Name] {nameOf otherOf : Item → Name} {items : List Item}

/-- The last item under its one name is also the last under its other name. -/
theorem LastUnder.transfer
    (alike : ∀ item ∈ items, ∀ other ∈ items,
      (nameOf item == nameOf other) = (otherOf item == otherOf other))
    (named : ∀ item ∈ items, (nameOf item == nameOf item) = true) {name : Name} {place : Nat}
    {item : Item} (last : LastUnder nameOf items name place item) :
    LastUnder otherOf items (otherOf item) place item := by
  have within := List.mem_of_getElem? last.listed
  refine ⟨last.listed, ?_, fun later other after found => ?_⟩
  · rw [← alike item within item within]
    exact named item within
  · rw [← alike item within other (List.mem_of_getElem? found), ← BEq.congr_left last.named]
    exact last.last later other after found

theorem length_indexBy_eq
    (alike : ∀ item ∈ items, ∀ other ∈ items,
      (nameOf item == nameOf other) = (otherOf item == otherOf other)) :
    (indexBy nameOf items).length = (indexBy otherOf items).length := by
  induction items using List.reverseRecOn with
  | nil => rfl
  | append_singleton items item inductionHypothesis =>
      have before := inductionHypothesis fun one within other also =>
        alike one (List.mem_append_left _ within) other (List.mem_append_left _ also)
      have appended : ∀ anyOf : Item → Name,
          indexBy anyOf (items ++ [item]) = put (anyOf item) item (indexBy anyOf items) := by
        intro anyOf
        simp [indexBy, ofPairs, putAll]
      have present : ((indexBy nameOf items).lookup (nameOf item)).isSome =
          ((indexBy otherOf items).lookup (otherOf item)).isSome := by
        rw [Bool.eq_iff_iff, isSome_lookup_indexBy_iff, isSome_lookup_indexBy_iff]
        refine exists_congr fun other => and_congr_right fun within => ?_
        rw [alike item (by simp) other (List.mem_append_left _ within)]
      rw [appended, appended, length_put, length_put, present, before]

end Two

end FeatureFlags.Entries
