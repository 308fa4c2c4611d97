import FeatureFlags.Double.Numeral
import FeatureFlags.Value.Order

/-!
# Operators of rules

A rule compares the value of a flag with a constant.  Text next to a number is read as a number
(blank text as zero, unreadable text as not-a-number), and an order comparison reads null as zero;
two values without an order make every order comparison false.
-/

set_option autoImplicit false

namespace FeatureFlags

inductive Operator where
  | eq
  | ne
  | lt
  | le
  | gt
  | ge
  deriving DecidableEq, Repr

namespace Value

/-- The number that a value stands for beside a number. -/
def toNumber? : Value → Option Number
  | .string text =>
      let trimmed := Text.trim text.toList
      if trimmed.isEmpty then some (.int 0)
      else some (.double ((Double.ofNumeral? trimmed).getD .nan))
  | value => value.number?

/-- The numbers by which two values compare, when one of them is a number. -/
def asNumbers? (left right : Value) : Option (Number × Number) :=
  if left.number?.isSome || right.number?.isSome then
    match left.toNumber?, right.toNumber? with
    | some m, some n => some (m, n)
    | _, _ => none
  else
    none

def looselySame (left right : Value) : Bool :=
  match asNumbers? left right with
  | some (m, n) => m.same n
  | none => left.same right

/-- Null ranks as zero. -/
def ranked : Value → Value
  | .null => .int 0
  | value => value

def looselyOrder? (left right : Value) : Option Ordering :=
  match asNumbers? left.ranked right.ranked with
  | some (m, n) => m.order? n
  | none => left.ranked.order? right.ranked

end Value

namespace Operator

def symbol : Operator → String
  | .eq => "=="
  | .ne => "!="
  | .lt => "<"
  | .le => "<="
  | .gt => ">"
  | .ge => ">="

def all : List Operator := [.eq, .ne, .lt, .le, .gt, .ge]

def ofSymbol? (symbol : String) : Option Operator :=
  all.find? (·.symbol == symbol)

def holds (operator : Operator) (left right : Value) : Bool :=
  match operator with
  | .eq => left.looselySame right
  | .ne => !left.looselySame right
  | .lt => left.looselyOrder? right == some .lt
  | .le => (left.looselyOrder? right).any (· != .gt)
  | .gt => left.looselyOrder? right == some .gt
  | .ge => (left.looselyOrder? right).any (· != .lt)

theorem ofSymbol?_symbol (operator : Operator) : ofSymbol? operator.symbol = some operator := by
  cases operator <;> rfl

end Operator

end FeatureFlags
