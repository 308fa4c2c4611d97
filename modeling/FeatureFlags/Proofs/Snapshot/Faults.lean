import FeatureFlags.Proofs.Result
import FeatureFlags.Snapshot
import Mathlib.Data.List.Forall2

/-!
# The faults of a state response

`faults` lists all that is wrong with a response, in the order in which it counts: flag by flag with
the rules of each, then the overrides, then what cannot be a key.  Decoding stops at the first of
them, and it goes through exactly if there is none (`firstFault_decodeParts`).
-/

set_option autoImplicit false

namespace FeatureFlags.Snapshot

/-! ## Listing faults -/

/-- The fault of reading a member, or else the faults of its value. -/
def within (data : Value) (name : String) (faultsOf : Value → List Fault) : List Fault :=
  match data.member name with
  | .error fault => [.shape fault]
  | .ok value => faultsOf value

/-- The fault of running through a value, or else the faults of its elements. -/
def through (faultsOf : Value → List Fault) (data : Value) : List Fault :=
  match data.elements with
  | .error fault => [.shape fault]
  | .ok items => items.flatMap faultsOf

/-- A member may be anything but has to be there. -/
def present (data : Value) (name : String) : List Fault :=
  within data name fun _ => []

def operatorFaults : Value → List Fault
  | .string symbol =>
      if (Operator.ofSymbol? symbol).isSome then [] else [.unknownOperator (.string symbol)]
  | operator => [.unknownOperator operator]

def conditionFaults (data : Value) : List Fault :=
  within data "op" operatorFaults ++ present data "flag_id"

def ruleFaults (data : Value) : List Fault :=
  within data "expression" conditionFaults

def rulesFaults (data : Value) : List Fault :=
  if data.isFalsy then [] else through ruleFaults data

def flagFaults (data : Value) : List Fault :=
  present data "id" ++ present data "key" ++ rulesFaults (data.optional "dynamic_rules")

def overrideFaults (data : Value) : List Fault :=
  present data "key"

/-- What stands where a key is needed and cannot be one. -/
def keyFaults (data : Value) : List Fault :=
  match data.asKey with
  | .error fault => [.shape fault]
  | .ok _ => []

/-- The fault of a member that is needed as a key; one that is not there has been listed before. -/
def memberKeyFaults (name : String) (data : Value) : List Fault :=
  match data.member name with
  | .error _ => []
  | .ok key => keyFaults key

def keysFaults (data : Value) (list name : String) : List Fault :=
  match data.member list >>= Value.elements with
  | .error _ => []
  | .ok items => items.flatMap (memberKeyFaults name)

def faults (data : Value) : List Fault :=
  within data "flags" (through flagFaults) ++ within data "overrides" (through overrideFaults) ++
    keysFaults data "flags" "key" ++ keysFaults data "flags" "id" ++
      keysFaults data "overrides" "key"

/-! ## The first fault -/

def firstFault {Result : Type} : Except Fault Result → Option Fault
  | .ok _ => none
  | .error fault => some fault

section Results

variable {Result Next : Type}

/-- What comes after a step counts where the step has no fault. -/
theorem firstFault_bind {result : Except Fault Result} {next : Result → Except Fault Next}
    {first later : List Fault} (step : firstFault result = first.head?)
    (rest : ∀ value, result = .ok value → firstFault (next value) = later.head?) :
    firstFault (result >>= next) = (first ++ later).head? := by
  rw [List.head?_append, ← step]
  cases result with
  | error fault => rfl
  | ok value => exact rest value rfl

theorem firstFault_map (result : Except Fault Result) (next : Result → Next) :
    firstFault (result >>= fun value => pure (next value)) = firstFault result := by
  cases result <;> rfl

/-- Going through a list stops at the first fault; the faults may be told from what the items were
made of. -/
theorem firstFault_mapM {Source Item : Type} {read : Item → Except Fault Result}
    {faultsOf : Source → List Fault} {sources : List Source} {items : List Item}
    (each : List.Forall₂ (fun source item => firstFault (read item) = (faultsOf source).head?)
      sources items) :
    firstFault (items.mapM read) = (sources.flatMap faultsOf).head? := by
  induction each with
  | nil => rfl
  | cons first _ rest =>
      rw [List.mapM_cons, List.flatMap_cons]
      exact firstFault_bind first fun value _ => (firstFault_map _ _).trans rest

/-- What a list was read into, item by item. -/
theorem forall₂_of_mapM {Item : Type} {read : Item → Except Fault Result} {items : List Item}
    {results : List Result} (ok : items.mapM read = .ok results) :
    List.Forall₂ (fun item result => read item = .ok result) items results := by
  induction items generalizing results with
  | nil =>
      cases ok
      exact .nil
  | cons item items inductionHypothesis =>
      rw [List.mapM_cons] at ok
      obtain ⟨value, first, ok⟩ := bind_eq_ok_iff.mp ok
      obtain ⟨values, rest, ok⟩ := bind_eq_ok_iff.mp ok
      cases ok
      exact .cons first (inductionHypothesis rest)

theorem firstFault_within {data : Value} {name : String} {next : Value → Except Fault Next}
    {faultsOf : Value → List Fault}
    (each : ∀ value, firstFault (next value) = (faultsOf value).head?) :
    firstFault (shaped (data.member name) >>= next) = (within data name faultsOf).head? := by
  unfold within
  cases data.member name with
  | error fault => rfl
  | ok value => exact each value

theorem firstFault_member (data : Value) (name : String) :
    firstFault (shaped (data.member name)) = (present data name).head? := by
  unfold present within
  cases data.member name <;> rfl

theorem firstFault_through {read : Value → Except Fault Result} {faultsOf : Value → List Fault}
    (each : ∀ item, firstFault (read item) = (faultsOf item).head?) (data : Value) :
    firstFault (shaped data.elements >>= fun items => items.mapM read) =
      (through faultsOf data).head? := by
  unfold through
  cases data.elements with
  | error fault => rfl
  | ok items => exact firstFault_mapM (List.forall₂_same.mpr fun item _ => each item)

end Results

/-! ## Flags and overrides -/

theorem firstFault_decodeOperator (operator : Value) :
    firstFault (decodeOperator operator) = (operatorFaults operator).head? := by
  cases operator with
  | string symbol =>
      simp only [decodeOperator, operatorFaults]
      cases Operator.ofSymbol? symbol <;> rfl
  | null | bool | int | double | list | object => rfl

theorem firstFault_decodeCondition (data : Value) :
    firstFault (decodeCondition data) = (conditionFaults data).head? := by
  have operator : firstFault (shaped (data.member "op") >>= decodeOperator) =
      (within data "op" operatorFaults).head? := firstFault_within firstFault_decodeOperator
  have grouped : decodeCondition data =
      (shaped (data.member "op") >>= decodeOperator) >>= fun operator =>
        shaped (data.member "flag_id") >>= fun reference =>
          pure ⟨reference, operator, data.optional "value"⟩ := by
    rw [bind_assoc]
    rfl
  rw [grouped]
  refine firstFault_bind operator fun known _ => ?_
  exact (firstFault_map _ _).trans (firstFault_member data "flag_id")

theorem firstFault_decodeRule (data : Value) :
    firstFault (decodeRule data) = (ruleFaults data).head? :=
  firstFault_within fun expression =>
    (firstFault_map _ _).trans (firstFault_decodeCondition expression)

theorem firstFault_decodeRules (data : Value) :
    firstFault (decodeRules data) = (rulesFaults data).head? := by
  unfold decodeRules rulesFaults
  split
  · rfl
  · exact firstFault_through firstFault_decodeRule data

theorem firstFault_decodeFlag (data : Value) :
    firstFault (decodeFlag data) = (flagFaults data).head? := by
  unfold flagFaults
  rw [List.append_assoc]
  refine firstFault_bind (firstFault_member data "id") fun id _ => ?_
  refine firstFault_bind (firstFault_member data "key") fun key _ => ?_
  exact (firstFault_map _ _).trans (firstFault_decodeRules _)

theorem firstFault_decodeOverride (data : Value) :
    firstFault (decodeOverride data) = (overrideFaults data).head? :=
  (firstFault_map _ _).trans (firstFault_member data "key")

theorem of_shaped {Result : Type} {result : Except ShapeFault Result} {value : Result}
    (ok : shaped result = .ok value) : result = .ok value := by
  cases result with
  | error fault => cases ok
  | ok held =>
      cases ok
      rfl

theorem member_of_decodeFlag {data : Value} {draft : Draft} (ok : decodeFlag data = .ok draft) :
    data.member "id" = .ok draft.id ∧ data.member "key" = .ok draft.key := by
  obtain ⟨id, hasId, ok⟩ := bind_eq_ok_iff.mp ok
  obtain ⟨key, hasKey, ok⟩ := bind_eq_ok_iff.mp ok
  obtain ⟨rules, _, ok⟩ := bind_eq_ok_iff.mp ok
  cases ok
  exact ⟨of_shaped hasId, of_shaped hasKey⟩

theorem member_of_decodeOverride {data : Value} {draft : Value × Value}
    (ok : decodeOverride data = .ok draft) : data.member "key" = .ok draft.1 := by
  obtain ⟨key, hasKey, ok⟩ := bind_eq_ok_iff.mp ok
  cases ok
  exact of_shaped hasKey

/-! ## The whole response -/

def readAll {Result : Type} (read : Value → Except Fault Result) (data : Value) (list : String) :
    Except Fault (List Result) :=
  shaped (data.member list) >>= fun held => shaped held.elements >>= fun items => items.mapM read

theorem decodeParts_eq (data : Value) :
    decodeParts data = readAll decodeFlag data "flags" >>= fun flagDrafts =>
      readAll decodeOverride data "overrides" >>= fun overrideDrafts =>
        flagsOf flagDrafts >>= fun flags => overridesOf overrideDrafts >>= fun overrides =>
          pure (flags, overrides) := by
  simp only [decodeParts, readAll, bind_assoc]

section Lists

variable {Result : Type} {read : Value → Except Fault Result} {data : Value} {list : String}

theorem firstFault_readAll {faultsOf : Value → List Fault}
    (each : ∀ item, firstFault (read item) = (faultsOf item).head?) (data : Value) (list : String) :
    firstFault (readAll read data list) = (within data list (through faultsOf)).head? :=
  firstFault_within (firstFault_through each)

theorem items_of_readAll {results : List Result} (ok : readAll read data list = .ok results) :
    ∃ items, data.member list >>= Value.elements = .ok items ∧
      List.Forall₂ (fun item result => read item = .ok result) items results := by
  obtain ⟨held, hasList, ok⟩ := bind_eq_ok_iff.mp ok
  obtain ⟨items, elements, ok⟩ := bind_eq_ok_iff.mp ok
  refine ⟨items, ?_, forall₂_of_mapM ok⟩
  rw [of_shaped hasList]
  exact of_shaped elements

theorem firstFault_asKey (value : Value) :
    firstFault (shaped value.asKey) = (keyFaults value).head? := by
  unfold keyFaults
  cases value.asKey <;> rfl

/-- Making keys of what was read has the faults of the members that it was read from. -/
theorem firstFault_keys {Keyed : Type} {results : List Result} {name : String}
    {toKey : Result → Except Fault Keyed} (ok : readAll read data list = .ok results)
    (each : ∀ item result, read item = .ok result → ∃ key, item.member name = .ok key ∧
      firstFault (toKey result) = (keyFaults key).head?) :
    firstFault (results.mapM toKey) = (keysFaults data list name).head? := by
  obtain ⟨items, elements, reads⟩ := items_of_readAll ok
  unfold keysFaults
  rw [elements]
  refine firstFault_mapM (reads.imp fun item result ok => ?_)
  obtain ⟨key, member, fault⟩ := each item result ok
  rw [memberKeyFaults, member]
  exact fault

end Lists

theorem firstFault_flagsOf {data : Value} {drafts : List Draft}
    (ok : readAll decodeFlag data "flags" = .ok drafts) :
    firstFault (flagsOf drafts) =
      (keysFaults data "flags" "key" ++ keysFaults data "flags" "id").head? := by
  have keys : firstFault (drafts.mapM fun draft => shaped draft.key.asKey) =
      (keysFaults data "flags" "key").head? :=
    firstFault_keys ok fun item draft read =>
      ⟨draft.key, (member_of_decodeFlag read).2, firstFault_asKey draft.key⟩
  have ids : firstFault (drafts.mapM fun draft => shaped draft.id.asKey) =
      (keysFaults data "flags" "id").head? :=
    firstFault_keys ok fun item draft read =>
      ⟨draft.id, (member_of_decodeFlag read).1, firstFault_asKey draft.id⟩
  exact firstFault_bind keys fun _ _ => (firstFault_map _ _).trans ids

theorem firstFault_overridesOf {data : Value} {drafts : List (Value × Value)}
    (ok : readAll decodeOverride data "overrides" = .ok drafts) :
    firstFault (overridesOf drafts) = (keysFaults data "overrides" "key").head? :=
  firstFault_keys ok fun _ draft read =>
    ⟨draft.1, member_of_decodeOverride read, (firstFault_map _ _).trans (firstFault_asKey draft.1)⟩

theorem firstFault_decodeParts (data : Value) :
    firstFault (decodeParts data) = (faults data).head? := by
  have listed : faults data = within data "flags" (through flagFaults) ++
      (within data "overrides" (through overrideFaults) ++
        ((keysFaults data "flags" "key" ++ keysFaults data "flags" "id") ++
          keysFaults data "overrides" "key")) := by
    simp only [faults, List.append_assoc]
  rw [decodeParts_eq, listed]
  refine firstFault_bind (firstFault_readAll firstFault_decodeFlag data "flags")
    fun flagDrafts flagsRead => ?_
  refine firstFault_bind (firstFault_readAll firstFault_decodeOverride data "overrides")
    fun overrideDrafts overridesRead => ?_
  refine firstFault_bind (firstFault_flagsOf flagsRead) fun flags _ => ?_
  exact (firstFault_map _ _).trans (firstFault_overridesOf overridesRead)

end FeatureFlags.Snapshot
