import FeatureFlags.Proofs.Snapshot.Grammar
import FeatureFlags.Proofs.Value.Key

/-!
# What a response spells

A snapshot is read off its response item by item: `SpellsFlag` says what an item of the list of
flags becomes, rule by rule in their order, and `SpellsOverride` what an override becomes.  Decoding
reads what the response spells (`spells_of_decodeParts`), and it spells one thing only
(`SpellsState.unique`).
-/

set_option autoImplicit false

namespace FeatureFlags.Snapshot

/-! ## What items spell -/

def SpellsRule (data : Value) (rule : Rule) : Prop :=
  ∃ expression, HasMember data "expression" expression ∧
    HasMember expression "op" (.string rule.condition.operator.symbol) ∧
    HasMember expression "flag_id" rule.condition.reference ∧
    rule.condition.constant = expression.optional "value" ∧ rule.value = data.optional "value"

/-- Rules are spelled in their order; anything empty, zero or false spells none. -/
def SpellsRules (data : Value) (rules : List Rule) : Prop :=
  if data.isFalsy then rules = []
  else ∃ items, data = .list items ∧ List.Forall₂ SpellsRule items rules

structure SpellsFlag (data : Value) (flag : Flag) : Prop where
  id : HasMember data "id" flag.id.value
  key : HasMember data "key" flag.key.value
  value : flag.value = data.optional "value"
  rules : SpellsRules (data.optional "dynamic_rules") flag.rules

structure SpellsOverride (data : Value) (override : Override) : Prop where
  key : HasMember data "key" override.key.value
  value : override.value = data.optional "value"

/-- The items that a member of a response spells, in their order; an empty text and an empty object
spell none. -/
def Spells {Item : Type} (spells : Value → Item → Prop) (data : Value) (name : String)
    (items : List Item) : Prop :=
  ∃ held, HasMember data name held ∧
    ((held = .string "" ∨ held = .object []) ∧ items = [] ∨
      ∃ values, held = .list values ∧ List.Forall₂ spells values items)

structure SpellsState (data : Value) (flags : List Flag) (overrides : List Override) : Prop where
  flags : Spells SpellsFlag data "flags" flags
  overrides : Spells SpellsOverride data "overrides" overrides

/-! ## Reading items -/

theorem symbol_of_decodeOperator {data : Value} {operator : Operator}
    (ok : decodeOperator data = .ok operator) : data = .string operator.symbol := by
  unfold decodeOperator at ok
  split at ok
  next symbol =>
      split at ok
      next known found =>
          cases ok
          have spelled := List.find?_some found
          rw [beq_iff_eq] at spelled
          rw [spelled]
      · cases ok
  · cases ok

theorem hasMember_of_shaped {data value : Value} {name : String}
    (ok : shaped (data.member name) = .ok value) : HasMember data name value :=
  hasMember_iff.mpr (of_shaped ok)

theorem spells_of_decodeRule {data : Value} {rule : Rule} (ok : decodeRule data = .ok rule) :
    SpellsRule data rule := by
  obtain ⟨expression, hasExpression, ok⟩ := bind_eq_ok_iff.mp ok
  obtain ⟨condition, read, ok⟩ := bind_eq_ok_iff.mp ok
  cases ok
  obtain ⟨symbol, hasOperator, read⟩ := bind_eq_ok_iff.mp read
  obtain ⟨operator, known, read⟩ := bind_eq_ok_iff.mp read
  obtain ⟨reference, hasReference, read⟩ := bind_eq_ok_iff.mp read
  cases read
  have spelled := symbol_of_decodeOperator known
  refine ⟨expression, hasMember_of_shaped hasExpression, ?_, hasMember_of_shaped hasReference, rfl,
    rfl⟩
  rw [← spelled]
  exact hasMember_of_shaped hasOperator

/-- Only a list has elements that spell something; characters of texts and member names do not. -/
theorem listed_of_elements {Item : Type} {spells : Value → Item → Prop} {data : Value}
    {values : List Value} {items : List Item} (typed : ∀ text item, ¬spells (.string text) item)
    (elements : data.elements = .ok values) (each : List.Forall₂ spells values items) :
    (data = .string "" ∨ data = .object []) ∧ items = [] ∨ data = .list values := by
  have none_of_texts : ∀ texts : List String, values = texts.map Value.string →
      texts = [] ∧ items = [] := by
    intro texts spelled
    subst spelled
    cases texts with
    | nil =>
        cases each
        exact ⟨rfl, rfl⟩
    | cons text texts =>
        cases each with
        | cons first _ => exact absurd first (typed text _)
  cases data with
  | list listed =>
      cases elements
      exact .inr rfl
  | string text =>
      cases elements
      have none := none_of_texts (text.toList.map String.singleton) (by rw [List.map_map]; rfl)
      have empty : text = "" := String.toList_eq_nil_iff.mp (List.map_eq_nil_iff.mp none.1)
      exact .inl ⟨.inl (congrArg Value.string empty), none.2⟩
  | object members =>
      cases elements
      have none := none_of_texts (members.map Prod.fst) (by rw [List.map_map]; rfl)
      exact .inl ⟨.inr (congrArg Value.object (List.map_eq_nil_iff.mp none.1)), none.2⟩
  | null | bool | int | double => cases elements

theorem not_hasMember_string {text name : String} {value : Value} :
    ¬HasMember (.string text) name value := by
  rintro ⟨members, ⟨⟩, -⟩

theorem spells_of_decodeRules {data : Value} {rules : List Rule}
    (ok : decodeRules data = .ok rules) : SpellsRules data rules := by
  unfold decodeRules at ok
  unfold SpellsRules
  split at ok
  next falsy =>
      cases ok
      rw [if_pos falsy]
  next filled =>
      rw [if_neg filled]
      obtain ⟨values, elements, read⟩ := bind_eq_ok_iff.mp ok
      have spelled : List.Forall₂ SpellsRule values rules :=
        (forall₂_of_mapM read).imp fun item rule => spells_of_decodeRule
      have typed : ∀ text rule, ¬SpellsRule (.string text) rule := by
        intro text rule spells
        obtain ⟨expression, held, -⟩ := spells
        exact not_hasMember_string held
      obtain ⟨empty | empty, -⟩ | listed := listed_of_elements typed (of_shaped elements) spelled
      · exact absurd (by rw [empty]; rfl) filled
      · exact absurd (by rw [empty]; rfl) filled
      · exact ⟨values, listed, spelled⟩

/-- A draft is a flag but for its id and key being keys. -/
structure Drafts (draft : Draft) (flag : Flag) : Prop where
  id : draft.id = flag.id.value
  key : draft.key = flag.key.value
  value : flag.value = draft.value
  rules : flag.rules = draft.rules

theorem value_of_asKey {data : Value} {key : Key} (ok : shaped data.asKey = .ok key) :
    data = key.value := by
  have read := of_shaped ok
  unfold Value.asKey at read
  split at read
  next known found =>
      cases read
      exact Key.key?_eq_some_iff.mp found
  · cases read

theorem spells_of_decodeFlag {data : Value} {draft : Draft} {flag : Flag}
    (ok : decodeFlag data = .ok draft) (drafts : Drafts draft flag) : SpellsFlag data flag := by
  obtain ⟨id, hasId, ok⟩ := bind_eq_ok_iff.mp ok
  obtain ⟨key, hasKey, ok⟩ := bind_eq_ok_iff.mp ok
  obtain ⟨rules, read, ok⟩ := bind_eq_ok_iff.mp ok
  cases ok
  obtain ⟨sameId, sameKey, sameValue, sameRules⟩ := drafts
  dsimp only at sameId sameKey sameValue sameRules
  subst sameId sameKey
  refine ⟨hasMember_of_shaped hasId, hasMember_of_shaped hasKey, sameValue, ?_⟩
  rw [sameRules]
  exact spells_of_decodeRules read

theorem drafts_of_keys {drafts : List Draft} {keys ids : List Key}
    (readKeys : List.Forall₂ (fun draft key => shaped draft.key.asKey = .ok key) drafts keys)
    (readIds : List.Forall₂ (fun draft id => shaped draft.id.asKey = .ok id) drafts ids) :
    List.Forall₂ Drafts drafts ((drafts.zip (ids.zip keys)).map fun (draft, id, key) =>
      ⟨id, key, draft.value, draft.rules⟩) := by
  induction readKeys generalizing ids with
  | nil => exact .nil
  | cons key _ inductionHypothesis =>
      cases readIds with
      | cons id readIds =>
          exact .cons ⟨value_of_asKey id, value_of_asKey key, rfl, rfl⟩
            (inductionHypothesis readIds)

theorem drafts_of_flagsOf {drafts : List Draft} {flags : List Flag}
    (ok : flagsOf drafts = .ok flags) : List.Forall₂ Drafts drafts flags := by
  obtain ⟨keys, readKeys, ok⟩ := bind_eq_ok_iff.mp ok
  obtain ⟨ids, readIds, ok⟩ := bind_eq_ok_iff.mp ok
  cases ok
  exact drafts_of_keys (forall₂_of_mapM readKeys) (forall₂_of_mapM readIds)

theorem spells_of_flagsOf {values : List Value} {drafts : List Draft} {flags : List Flag}
    (read : List.Forall₂ (fun value draft => decodeFlag value = .ok draft) values drafts)
    (ok : List.Forall₂ Drafts drafts flags) : List.Forall₂ SpellsFlag values flags := by
  induction read generalizing flags with
  | nil =>
      cases ok
      exact .nil
  | cons first _ inductionHypothesis =>
      cases ok with
      | cons drafts rest =>
          exact .cons (spells_of_decodeFlag first drafts) (inductionHypothesis rest)

theorem spells_of_overridesOf {values : List Value} {drafts : List (Value × Value)}
    {overrides : List Override}
    (read : List.Forall₂ (fun value draft => decodeOverride value = .ok draft) values drafts)
    (ok : overridesOf drafts = .ok overrides) : List.Forall₂ SpellsOverride values overrides := by
  have keyed := forall₂_of_mapM ok
  clear ok
  induction read generalizing overrides with
  | nil =>
      cases keyed
      exact .nil
  | cons first _ inductionHypothesis =>
      cases keyed with
      | cons keyed rest =>
          refine .cons ?_ (inductionHypothesis rest)
          obtain ⟨key, hasKey, first⟩ := bind_eq_ok_iff.mp first
          cases first
          obtain ⟨known, read, keyed⟩ := bind_eq_ok_iff.mp keyed
          cases keyed
          refine ⟨?_, rfl⟩
          have spelled : key = known.value := value_of_asKey read
          rw [← spelled]
          exact hasMember_of_shaped hasKey

theorem spells_of_readAll {Result Item : Type} {read : Value → Except Fault Result}
    {spells : Value → Item → Prop} {data : Value} {name : String} {results : List Result}
    {items : List Item} (typed : ∀ text item, ¬spells (.string text) item)
    (ok : readAll read data name = .ok results)
    (each : ∀ values, List.Forall₂ (fun value result => read value = .ok result) values results →
      List.Forall₂ spells values items) : Spells spells data name items := by
  obtain ⟨held, hasList, ok⟩ := bind_eq_ok_iff.mp ok
  obtain ⟨values, elements, ok⟩ := bind_eq_ok_iff.mp ok
  have spelled := each values (forall₂_of_mapM ok)
  refine ⟨held, hasMember_of_shaped hasList, ?_⟩
  obtain none | listed := listed_of_elements typed (of_shaped elements) spelled
  · exact .inl none
  · exact .inr ⟨values, listed, spelled⟩

theorem spells_of_decodeParts {data : Value} {flags : List Flag} {overrides : List Override}
    (ok : decodeParts data = .ok (flags, overrides)) : SpellsState data flags overrides := by
  rw [decodeParts_eq] at ok
  obtain ⟨flagDrafts, readFlags, ok⟩ := bind_eq_ok_iff.mp ok
  obtain ⟨overrideDrafts, readOverrides, ok⟩ := bind_eq_ok_iff.mp ok
  obtain ⟨listed, madeFlags, ok⟩ := bind_eq_ok_iff.mp ok
  obtain ⟨others, madeOverrides, ok⟩ := bind_eq_ok_iff.mp ok
  cases ok
  constructor
  · refine spells_of_readAll (fun text flag spells => not_hasMember_string spells.id) readFlags ?_
    exact fun values read => spells_of_flagsOf read (drafts_of_flagsOf madeFlags)
  · refine spells_of_readAll (fun text override spells => not_hasMember_string spells.key)
      readOverrides ?_
    exact fun values read => spells_of_overridesOf read madeOverrides

/-! ## One reading -/

theorem SpellsRule.unique : Relator.RightUnique SpellsRule := by
  intro data rule other spells also
  obtain ⟨expression, held, operator, reference, constant, value⟩ := spells
  obtain ⟨again, heldAgain, otherOperator, otherReference, otherConstant, otherValue⟩ := also
  cases held.unique heldAgain
  have sameSymbol := Value.string.inj (operator.unique otherOperator)
  have sameOperator : rule.condition.operator = other.condition.operator := by
    have known := congrArg Operator.ofSymbol? sameSymbol
    rw [Operator.ofSymbol?_symbol, Operator.ofSymbol?_symbol] at known
    exact (Option.some.inj known).symm
  have sameReference := reference.unique otherReference
  obtain ⟨⟨ruleReference, ruleOperator, ruleConstant⟩, ruleValue⟩ := rule
  obtain ⟨⟨otherReference, otherOperator, otherConstant⟩, otherValue⟩ := other
  dsimp only at sameOperator sameReference constant value otherConstant otherValue
  subst sameOperator sameReference constant value otherConstant otherValue
  rfl

theorem SpellsRules.unique {data : Value} {rules others : List Rule}
    (spells : SpellsRules data rules) (also : SpellsRules data others) : rules = others := by
  unfold SpellsRules at spells also
  split at spells
  next falsy =>
      rw [if_pos falsy] at also
      rw [spells, also]
  next filled =>
      rw [if_neg filled] at also
      obtain ⟨items, rfl, each⟩ := spells
      obtain ⟨_, ⟨⟩, again⟩ := also
      exact SpellsRule.unique.forall₂ each again

theorem SpellsFlag.unique : Relator.RightUnique SpellsFlag := by
  intro data flag other spells also
  have sameId := Key.value_injective (also.id.unique spells.id)
  have sameKey := Key.value_injective (also.key.unique spells.key)
  have sameValue := spells.value.trans also.value.symm
  have sameRules := spells.rules.unique also.rules
  cases flag
  cases other
  dsimp only at sameId sameKey sameValue sameRules
  subst sameId sameKey sameValue sameRules
  rfl

theorem SpellsOverride.unique : Relator.RightUnique SpellsOverride := by
  intro data override other spells also
  have sameKey := Key.value_injective (also.key.unique spells.key)
  have sameValue := spells.value.trans also.value.symm
  cases override
  cases other
  dsimp only at sameKey sameValue
  subst sameKey sameValue
  rfl

theorem Spells.unique {Item : Type} {spells : Value → Item → Prop}
    (one : Relator.RightUnique spells) {data : Value} {name : String} {items others : List Item}
    (spelled : Spells spells data name items) (also : Spells spells data name others) :
    items = others := by
  obtain ⟨held, hasList, spelled⟩ := spelled
  obtain ⟨again, hasAgain, also⟩ := also
  cases hasList.unique hasAgain
  obtain ⟨empty, rfl⟩ | ⟨values, rfl, each⟩ := spelled
  · obtain ⟨-, rfl⟩ | ⟨values, rfl, each⟩ := also
    · rfl
    · obtain ⟨⟨⟩⟩ | ⟨⟨⟩⟩ := empty
  · obtain ⟨⟨⟨⟩⟩ | ⟨⟨⟩⟩, -⟩ | ⟨_, ⟨⟩, others⟩ := also
    exact one.forall₂ each others

theorem SpellsState.unique {data : Value} {flags otherFlags : List Flag}
    {overrides otherOverrides : List Override} (spells : SpellsState data flags overrides)
    (also : SpellsState data otherFlags otherOverrides) :
    flags = otherFlags ∧ overrides = otherOverrides :=
  ⟨spells.flags.unique SpellsFlag.unique also.flags,
    spells.overrides.unique SpellsOverride.unique also.overrides⟩

end FeatureFlags.Snapshot
