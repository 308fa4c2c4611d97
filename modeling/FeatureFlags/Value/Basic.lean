import FeatureFlags.Double.Basic

/-!
# Values of flags

A flag, an override and a rule constant hold any JSON value.  Integers and doubles are different
kinds that compare by value.  An object is a list of named members; readers keep the names
distinct.  `Key` is the scalar part: what a flag id or a flag key can be.
-/

set_option autoImplicit false

namespace FeatureFlags

inductive Value where
  | null
  | bool (value : Bool)
  | int (value : Int)
  | double (value : Double)
  | string (text : String)
  | list (items : List Value)
  | object (members : List (String × Value))

instance : Inhabited Value := ⟨.null⟩

inductive Number where
  | int (value : Int)
  | double (value : Double)
  deriving DecidableEq

/-- A value that can name something: no list and no object. -/
inductive Key where
  | null
  | bool (value : Bool)
  | int (value : Int)
  | double (value : Double)
  | string (text : String)

namespace Number

/-- Order by exact value; an integer is never rounded, and nothing compares with not-a-number. -/
def order? : Number → Number → Option Ordering
  | .int left, .int right => some (compare left right)
  | .int left, .double right => right.orderInt? left
  | .double left, .int right => (left.orderInt? right).map Ordering.swap
  | .double left, .double right => left.order? right

def same (left right : Number) : Bool :=
  left.order? right == some .eq

end Number

namespace Value

/-- The number that a value is: truth values count as zero and one. -/
def number? : Value → Option Number
  | .bool value => some (.int value.toInt)
  | .int value => some (.int value)
  | .double value => some (.double value)
  | _ => none

def key? : Value → Option Key
  | .null => some .null
  | .bool value => some (.bool value)
  | .int value => some (.int value)
  | .double value => some (.double value)
  | .string text => some (.string text)
  | .list _ | .object _ => none

/-- Empty, zero, false and null. -/
def isFalsy : Value → Bool
  | .null => true
  | .bool value => !value
  | .int value => value == 0
  | .double value => value.isZero
  | .string text => text.isEmpty
  | .list items => items.isEmpty
  | .object members => members.isEmpty

def members? : Value → Option (List (String × Value))
  | .object members => some members
  | _ => none

def memberOrNull (members : List (String × Value)) (name : String) : Value :=
  (members.lookup name).getD .null

def kindName : Value → String
  | .null => "NoneType"
  | .bool _ => "bool"
  | .int _ => "int"
  | .double _ => "float"
  | .string _ => "str"
  | .list _ => "list"
  | .object _ => "dict"

end Value

namespace Key

def value : Key → Value
  | .null => .null
  | .bool value => .bool value
  | .int value => .int value
  | .double value => .double value
  | .string text => .string text

def number? : Key → Option Number
  | .bool value => some (.int value.toInt)
  | .int value => some (.int value)
  | .double value => some (.double value)
  | _ => none

/-- Keys are one when their values are equal, so `1`, `1.0` and `true` are one key and not-a-number
is not even its own. -/
def same (left right : Key) : Bool :=
  match left, right with
  | .null, .null => true
  | .string left, .string right => left == right
  | left, right =>
      match left.number?, right.number? with
      | some m, some n => m.same n
      | _, _ => false

/-- Looking up a key goes by `same`. -/
instance : BEq Key := ⟨same⟩

def text? : Key → Option String
  | .string text => some text
  | _ => none

end Key

end FeatureFlags
