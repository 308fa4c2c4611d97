import FeatureFlags.Entries
import FeatureFlags.Error
import FeatureFlags.Flag

/-!
# Snapshots of the global state

A snapshot holds the flags by key and by id and the global overrides of one accepted response.
`Snapshot.decode` reads it from decoded data: first every flag with its rules in turn, then every
override, then the keys of the three indexes, and the first fault decides.
-/

set_option autoImplicit false

namespace FeatureFlags

/-- The value of a member; only objects have members. -/
def Value.member (data : Value) (name : String) : Except ShapeFault Value :=
  match data with
  | .object members =>
      match members.lookup name with
      | some value => .ok value
      | none => .error (.missing name)
  | data => .error (.notIndexable data)

/-- What a value runs through: the items of a list, the characters of a text, the member names of an
object. -/
def Value.elements : Value → Except ShapeFault (List Value)
  | .list items => .ok items
  | .string text => .ok (text.toList.map fun c => .string (String.singleton c))
  | .object members => .ok (members.map fun member => .string member.1)
  | value => .error (.notIterable value)

def Value.asKey (value : Value) : Except ShapeFault Key :=
  match value.key? with
  | some key => .ok key
  | none => .error (.unhashable value)

def Value.optional : Value → String → Value
  | .object members, name => Value.memberOrNull members name
  | _, _ => .null

namespace Snapshot

inductive Fault where
  | shape (fault : ShapeFault)
  | unknownOperator (text : Value)

def Fault.error : Fault → Error
  | .shape fault => .parse (.malformedState fault)
  | .unknownOperator text => .ruleIntegrity (.unknownOperator text)

def shaped {Result : Type} (result : Except ShapeFault Result) : Except Fault Result :=
  result.mapError .shape

def decodeOperator (operator : Value) : Except Fault Operator :=
  match operator with
  | .string symbol =>
      match Operator.ofSymbol? symbol with
      | some known => .ok known
      | none => .error (.unknownOperator operator)
  | operator => .error (.unknownOperator operator)

/-- A condition; its operator is looked at before its flag id. -/
def decodeCondition (data : Value) : Except Fault Condition := do
  let operator ← decodeOperator (← shaped (data.member "op"))
  let reference ← shaped (data.member "flag_id")
  return ⟨reference, operator, data.optional "value"⟩

def decodeRule (data : Value) : Except Fault Rule := do
  let condition ← decodeCondition (← shaped (data.member "expression"))
  return ⟨condition, data.optional "value"⟩

/-- A flag whose id and key have not been looked at. -/
structure Draft where
  id : Value
  key : Value
  value : Value
  rules : List Rule

/-- The rules of a flag; anything empty, zero or false stands for none. -/
def decodeRules (data : Value) : Except Fault (List Rule) :=
  if data.isFalsy then .ok [] else do
    (← shaped data.elements).mapM decodeRule

def decodeFlag (data : Value) : Except Fault Draft := do
  let id ← shaped (data.member "id")
  let key ← shaped (data.member "key")
  let rules ← decodeRules (data.optional "dynamic_rules")
  return ⟨id, key, data.optional "value", rules⟩

def decodeOverride (data : Value) : Except Fault (Value × Value) := do
  let key ← shaped (data.member "key")
  return (key, data.optional "value")

end Snapshot

/-- The flags and global overrides of one response, replaced as a whole. -/
structure Snapshot where
  flags : List (Key × Flag)
  flagsById : List (Key × Flag)
  overrides : List (Key × Override)
  /-- When the response was accepted; the first snapshot of a client never was. -/
  refreshedAt : Option Double

namespace Snapshot

def empty : Snapshot :=
  ⟨[], [], [], none⟩

/-- Indexes flags and overrides; of equal keys the last one counts. -/
def index (flags : List Flag) (overrides : List Override) (refreshedAt : Double) : Snapshot where
  flags := Entries.ofPairs (flags.map fun flag => (flag.key, flag))
  flagsById := Entries.ofPairs (flags.map fun flag => (flag.id, flag))
  overrides := Entries.ofPairs (overrides.map fun override => (override.key, override))
  refreshedAt := some refreshedAt

/-- The flags of a response, once all their keys and then all their ids are known to be keys. -/
def flagsOf (drafts : List Draft) : Except Fault (List Flag) := do
  let keys ← drafts.mapM fun draft => shaped draft.key.asKey
  let ids ← drafts.mapM fun draft => shaped draft.id.asKey
  return (drafts.zip (ids.zip keys)).map fun (draft, id, key) => ⟨id, key, draft.value, draft.rules⟩

def overridesOf (drafts : List (Value × Value)) : Except Fault (List Override) :=
  drafts.mapM fun (key, value) => return ⟨← shaped key.asKey, value⟩

def decodeParts (data : Value) : Except Fault (List Flag × List Override) := do
  let flagDrafts ← (← shaped (← shaped (data.member "flags")).elements).mapM decodeFlag
  let overrideDrafts ← (← shaped (← shaped (data.member "overrides")).elements).mapM decodeOverride
  let flags ← flagsOf flagDrafts
  let overrides ← overridesOf overrideDrafts
  return (flags, overrides)

def decode (data : Value) (refreshedAt : Double) : Except Error Snapshot :=
  match decodeParts data with
  | .ok (flags, overrides) => .ok (index flags overrides refreshedAt)
  | .error fault => .error fault.error

end Snapshot

end FeatureFlags
