import FeatureFlags.Entries

/-!
# Entries as a table

What putting and dropping entries does to membership and to look-ups.
-/

set_option autoImplicit false

namespace FeatureFlags.Entries

universe u v

section Alike

variable {Name : Type u} {Item : Type v} [BEq Name]

/-- Names that count as one need not be equal: an entry keeps its own. -/
theorem exists_of_lookup {name : Name} {item : Item} {entries : List (Name × Item)}
    (found : entries.lookup name = some item) :
    ∃ present, (present, item) ∈ entries ∧ (name == present) = true := by
  induction entries with
  | nil => cases found
  | cons head rest inductionHypothesis =>
      obtain ⟨present, old⟩ := head
      rw [List.lookup_cons] at found
      split at found
      next same =>
          cases found
          exact ⟨present, List.mem_cons_self, same⟩
      next =>
          obtain ⟨other, member, same⟩ := inductionHypothesis found
          exact ⟨other, List.mem_cons_of_mem _ member, same⟩

theorem alike_of_mem_put {name : Name} {item : Item} {entry : Name × Item}
    {entries : List (Name × Item)} (member : entry ∈ put name item entries) :
    entry ∈ entries ∨ (entry.2 = item ∧ (entry.1 = name ∨ (name == entry.1) = true)) := by
  induction entries with
  | nil =>
      obtain rfl := List.mem_singleton.mp member
      exact .inr ⟨rfl, .inl rfl⟩
  | cons head rest inductionHypothesis =>
      obtain ⟨present, old⟩ := head
      unfold put at member
      split at member
      next same =>
          rcases List.mem_cons.mp member with rfl | later
          · exact .inr ⟨rfl, .inr same⟩
          · exact .inl (List.mem_cons_of_mem _ later)
      next =>
          rcases List.mem_cons.mp member with rfl | later
          · exact .inl List.mem_cons_self
          · exact (inductionHypothesis later).imp_left (List.mem_cons_of_mem _)

/-- What holds of all pairs, and of a name for all names that count as one with it, holds of the
entries that the pairs leave. -/
theorem forall_mem_ofPairs (holds : Name → Item → Prop)
    (alike : ∀ name other item, (name == other) = true → holds name item → holds other item)
    {pairs : List (Name × Item)} (all : ∀ pair ∈ pairs, holds pair.1 pair.2) :
    ∀ entry ∈ ofPairs pairs, holds entry.1 entry.2 := by
  suffices both : ∀ entries : List (Name × Item), (∀ entry ∈ entries, holds entry.1 entry.2) →
      ∀ entry ∈ putAll pairs entries, holds entry.1 entry.2 from both [] nofun
  induction pairs with
  | nil => exact fun entries old => old
  | cons pair pairs inductionHypothesis =>
      intro entries old
      refine inductionHypothesis (fun other member => all other (List.mem_cons_of_mem _ member))
        (put pair.1 pair.2 entries) fun entry member => ?_
      have first := all pair List.mem_cons_self
      rcases alike_of_mem_put member with before | ⟨item, same | same⟩
      · exact old entry before
      · rw [same, item]
        exact first
      · rw [item]
        exact alike pair.1 entry.1 pair.2 same first

end Alike

variable {Name : Type u} {Item : Type v} [BEq Name] [LawfulBEq Name]

theorem mem_put {name : Name} {item : Item} {entry : Name × Item} {entries : List (Name × Item)}
    (member : entry ∈ put name item entries) : entry = (name, item) ∨ entry ∈ entries := by
  induction entries with
  | nil => exact .inl (List.mem_singleton.mp member)
  | cons head rest inductionHypothesis =>
      obtain ⟨present, old⟩ := head
      unfold put at member
      split at member
      next same =>
          rw [← beq_iff_eq.mp same] at member
          rcases List.mem_cons.mp member with first | later
          · exact .inl first
          · exact .inr (List.mem_cons_of_mem _ later)
      next =>
          rcases List.mem_cons.mp member with first | later
          · exact .inr (first ▸ List.mem_cons_self)
          · exact (inductionHypothesis later).imp_right (List.mem_cons_of_mem _)

theorem mem_of_lookup {name : Name} {item : Item} {entries : List (Name × Item)}
    (found : entries.lookup name = some item) : (name, item) ∈ entries := by
  obtain ⟨before, after, rfl, -⟩ := List.lookup_eq_some_iff.mp found
  exact List.mem_append_right _ List.mem_cons_self

theorem lookup_of_mem {name : Name} {item : Item} {entries : List (Name × Item)}
    (distinct : (entries.map Prod.fst).Nodup) (member : (name, item) ∈ entries) :
    entries.lookup name = some item := by
  obtain ⟨before, after, rfl⟩ := List.append_of_mem member
  refine List.lookup_eq_some_iff.mpr ⟨before, after, rfl, fun entry earlier => ?_⟩
  rw [List.map_append, List.nodup_append] at distinct
  have apart := distinct.2.2 entry.1 (List.mem_map_of_mem earlier) name List.mem_cons_self
  simpa using apart.symm

theorem lookup_filter_of_kept {name : Name} {item : Item} {entries : List (Name × Item)}
    {keeps : Name × Item → Bool} (found : entries.lookup name = some item)
    (kept : keeps (name, item) = true) : (entries.filter keeps).lookup name = some item := by
  obtain ⟨before, after, rfl, apart⟩ := List.lookup_eq_some_iff.mp found
  rw [List.filter_append, List.filter_cons_of_pos kept]
  refine List.lookup_eq_some_iff.mpr ⟨_, _, rfl, ?_⟩
  intro entry member
  exact apart entry ((List.mem_filter.mp member).1)

/-- Of values under names of their own, each is found under its name. -/
theorem lookup_named {Key : Type u} [DecidableEq Key] (naming : Key → Name)
    (values : Key → Option Item) (apart : ∀ key other, naming key = naming other → key = other)
    (keys : List Key) (key : Key) :
    (keys.filterMap fun other => (values other).map fun item => (naming other, item)).lookup
      (naming key) = if key ∈ keys then values key else none := by
  induction keys with
  | nil => rfl
  | cons other rest inductionHypothesis =>
      rw [List.filterMap_cons]
      by_cases here : key = other
      · subst here
        rw [if_pos List.mem_cons_self]
        cases held : values key with
        | none =>
            dsimp only [Option.map_none]
            rw [inductionHypothesis, held, ite_self]
        | some item =>
            dsimp only [Option.map_some]
            rw [List.lookup_cons, beq_self_eq_true]
      · have differs : (naming key == naming other) = false :=
          beq_eq_false_iff_ne.mpr fun same => here (apart key other same)
        simp only [List.mem_cons, here, false_or]
        rw [← inductionHypothesis]
        cases values other with
        | none => rfl
        | some item =>
            dsimp only [Option.map_some]
            rw [List.lookup_cons, differs]

/-! ## Distinct names -/

omit [LawfulBEq Name] in
theorem names_put (name : Name) (item : Item) (entries : List (Name × Item)) :
    (put name item entries).map Prod.fst =
      if (entries.lookup name).isSome then entries.map Prod.fst
      else entries.map Prod.fst ++ [name] := by
  induction entries with
  | nil => rfl
  | cons head rest inductionHypothesis =>
      obtain ⟨present, old⟩ := head
      unfold put
      by_cases here : name == present
      · simp [here, List.lookup_cons]
      · simp only [here, Bool.false_eq_true, if_false, List.map_cons, List.lookup_cons,
          inductionHypothesis]
        split <;> rfl

theorem lookup_eq_none_iff {name : Name} {entries : List (Name × Item)} :
    entries.lookup name = none ↔ name ∉ entries.map Prod.fst := by
  rw [List.lookup_eq_none_iff]
  constructor
  · intro apart member
    obtain ⟨entry, present, rfl⟩ := List.mem_map.mp member
    simpa using apart entry present
  · intro absent entry present
    rw [bne_iff_ne]
    rintro rfl
    exact absent (List.mem_map_of_mem present)

omit [LawfulBEq Name] in
theorem put_of_absent {name : Name} {item : Item} {entries : List (Name × Item)}
    (absent : entries.lookup name = none) : put name item entries = entries ++ [(name, item)] := by
  induction entries with
  | nil => rfl
  | cons head rest inductionHypothesis =>
      obtain ⟨present, old⟩ := head
      rw [List.lookup_cons] at absent
      cases here : name == present with
      | true =>
          rw [here] at absent
          cases absent
      | false =>
          rw [here] at absent
          rw [put, here, if_neg Bool.false_ne_true, inductionHypothesis absent, List.cons_append]

omit [LawfulBEq Name] in
theorem put_self {name : Name} {item : Item} {entries : List (Name × Item)}
    (found : entries.lookup name = some item) : put name item entries = entries := by
  induction entries with
  | nil => cases found
  | cons head rest inductionHypothesis =>
      obtain ⟨present, old⟩ := head
      rw [List.lookup_cons] at found
      cases here : name == present with
      | true =>
          rw [here] at found
          cases found
          rw [put, if_pos here]
      | false =>
          rw [here] at found
          rw [put, here, if_neg Bool.false_ne_true, inductionHypothesis found]

theorem nodup_put {name : Name} {item : Item} {entries : List (Name × Item)}
    (distinct : (entries.map Prod.fst).Nodup) : ((put name item entries).map Prod.fst).Nodup := by
  rw [names_put]
  split
  · exact distinct
  next absent =>
      rw [Option.not_isSome_iff_eq_none, lookup_eq_none_iff] at absent
      refine List.nodup_append.mpr ⟨distinct, by simp, ?_⟩
      rintro other member last here rfl
      exact absent (List.mem_singleton.mp here ▸ member)

theorem nodup_ofPairs (pairs : List (Name × Item)) : ((ofPairs pairs).map Prod.fst).Nodup := by
  suffices stays : ∀ entries : List (Name × Item), (entries.map Prod.fst).Nodup →
      ((putAll pairs entries).map Prod.fst).Nodup from stays [] List.nodup_nil
  induction pairs with
  | nil => exact fun entries distinct => distinct
  | cons pair pairs inductionHypothesis =>
      intro entries distinct
      exact inductionHypothesis (put pair.1 pair.2 entries) (nodup_put distinct)

/-- When names are distinct, dropping entries drops just these from the look-ups. -/
theorem lookup_filter {entries : List (Name × Item)} (distinct : (entries.map Prod.fst).Nodup)
    (keeps : Name × Item → Bool) (name : Name) :
    (entries.filter keeps).lookup name =
      (entries.lookup name).filter fun item => keeps (name, item) := by
  induction entries with
  | nil => rfl
  | cons head rest inductionHypothesis =>
      obtain ⟨present, item⟩ := head
      obtain ⟨absent, distinctRest⟩ := List.nodup_cons.mp distinct
      by_cases here : name = present
      · subst here
        cases kept : keeps (name, item) with
        | true => simp [kept, Option.filter]
        | false =>
            have missing : rest.lookup name = none := lookup_eq_none_iff.mpr absent
            simp [kept, Option.filter, inductionHypothesis distinctRest, missing]
      · have differs : (name == present) = false := beq_eq_false_iff_ne.mpr here
        cases kept : keeps (present, item) with
        | true => simp [kept, List.lookup_cons, differs, inductionHypothesis distinctRest]
        | false => simp [kept, List.lookup_cons, differs, inductionHypothesis distinctRest]

end FeatureFlags.Entries
