import FeatureFlags.Text.Raw
import FeatureFlags.Value.Basic

/-!
# Data of a YAML document

`Data` is what the nodes of a document stand for.  A `Label` is data that can name an entry of a
mapping; labels of equal value are one label, so truth values and whole doubles are kept as
integers.
-/

set_option autoImplicit false

namespace FeatureFlags.Yaml

structure Date where
  year : Nat
  month : Nat
  day : Nat
  deriving DecidableEq, Repr

/-- A time of day on a date, with its distance from universal time in seconds where it is given. -/
structure Timestamp where
  date : Date
  hour : Nat
  minute : Nat
  second : Nat
  microsecond : Nat
  offset : Option Int
  deriving DecidableEq, Repr

inductive Label where
  | null
  | int (value : Int)
  | double (value : Double)
  | text (text : String)
  | broken (text : Text.Broken)
  | binary (bytes : List UInt8)
  | date (date : Date)
  | timestamp (timestamp : Timestamp)
  deriving DecidableEq

inductive Data where
  | null
  | bool (value : Bool)
  | int (value : Int)
  | double (value : Double)
  | text (text : String)
  | broken (text : Text.Broken)
  | binary (bytes : List UInt8)
  | date (date : Date)
  | timestamp (timestamp : Timestamp)
  | list (items : List Data)
  | map (entries : List (Label × Data))
  | set (members : List Label)

namespace Data

def ofRaw : Text.Raw → Data
  | .whole content => .text content
  | .broken content => .broken content

/-- The label that data makes; collections make none. -/
def label? : Data → Option Label
  | .null => some .null
  | .bool value => some (.int value.toInt)
  | .int value => some (.int value)
  | .double value =>
      match value.toInt? with
      | some whole => some (.int whole)
      | none => some (.double value)
  | .text content => some (.text content)
  | .broken content => some (.broken content)
  | .binary bytes => some (.binary bytes)
  | .date day => some (.date day)
  | .timestamp moment => some (.timestamp moment)
  | .list _ | .map _ | .set _ => none

def isNull : Data → Bool
  | .null => true
  | _ => false

/-- Empty, zero, false and null. -/
def isFalsy : Data → Bool
  | .null => true
  | .bool value => !value
  | .int value => value == 0
  | .double value => value.isZero
  | .text content => content.isEmpty
  | .binary bytes => bytes.isEmpty
  | .broken _ | .date _ | .timestamp _ => false
  | .list items => items.isEmpty
  | .map entries => entries.isEmpty
  | .set members => members.isEmpty

mutual

def ofValue : Value → Data
  | .null => .null
  | .bool value => .bool value
  | .int value => .int value
  | .double value => .double value
  | .string content => .text content
  | .list items => .list (ofValues items)
  | .object members => .map (ofMembers members)

def ofValues : List Value → List Data
  | [] => []
  | item :: rest => ofValue item :: ofValues rest

def ofMembers : List (String × Value) → List (Label × Data)
  | [] => []
  | (name, item) :: rest => (.text name, ofValue item) :: ofMembers rest

end

end Data

end FeatureFlags.Yaml
