import FeatureFlags.Value.Basic

/-!
# Equality and order of values

Numbers of both kinds are equal by exact value, lists element by element and objects by content in
any order.  Only numbers, strings and lists are ordered, each among themselves; a list is ordered
by its first pair of unequal elements, else by length.
-/

set_option autoImplicit false

namespace FeatureFlags.Value

mutual

def same : Value → Value → Bool
  | .null, .null => true
  | .string left, .string right => left == right
  | .list left, .list right => sameItems left right
  | .object left, .object right => left.length == right.length && sameMembers left right
  | left, right =>
      match left.number?, right.number? with
      | some m, some n => m.same n
      | _, _ => false

def sameItems : List Value → List Value → Bool
  | [], [] => true
  | left :: lefts, right :: rights => same left right && sameItems lefts rights
  | _, _ => false

/-- Whether every member on the left stands on the right under its name with an equal value. -/
def sameMembers : List (String × Value) → List (String × Value) → Bool
  | [], _ => true
  | (name, left) :: lefts, rights =>
      (match rights.lookup name with
        | some right => same left right
        | none => false) && sameMembers lefts rights

end

/-- Order by code points. -/
def orderText (left right : String) : Ordering :=
  compareOfLessAndEq left right

mutual

def order? : Value → Value → Option Ordering
  | .string left, .string right => some (orderText left right)
  | .list left, .list right => orderItems? left right
  | left, right =>
      match left.number?, right.number? with
      | some m, some n => m.order? n
      | _, _ => none

def orderItems? : List Value → List Value → Option Ordering
  | [], [] => some .eq
  | [], _ :: _ => some .lt
  | _ :: _, [] => some .gt
  | left :: lefts, right :: rights =>
      if same left right then orderItems? lefts rights else order? left right

end

end FeatureFlags.Value
