import FeatureFlags.Proofs.Rule.Numeral
import FeatureFlags.Proofs.Value.Transitivity

/-!
# Kinds of values in order

Rules order three kinds of values, each within itself: numbers with truth values and null among
them, texts, and lists of anything.  Within a kind nothing is read as something else but null, so
the order of rules is the order of values, and its laws are theirs.
-/

set_option autoImplicit false

namespace FeatureFlags

inductive Kind where
  | number
  | text
  | list
  deriving DecidableEq, Repr

/-- Objects are of no kind. -/
def Value.kind? : Value → Option Kind
  | .null | .bool _ | .int _ | .double _ => some .number
  | .string _ => some .text
  | .list _ => some .list
  | .object _ => none

/-- A value of a kind in which every object names its members apart. -/
structure Kind.Has (kind : Kind) (value : Value) : Prop where
  isKind : value.kind? = some kind
  named : value.WellNamed

namespace Value

variable {kind : Kind} {left right other : Value}

theorem looselySame_of_kind (leftKind : left.kind? = some kind)
    (rightKind : right.kind? = some kind) : left.looselySame right = left.same right := by
  have sameKind : left.kind? = right.kind? := leftKind.trans rightKind.symm
  cases left <;> cases right <;> first | rfl | simp [kind?] at sameKind leftKind

theorem looselyOrder?_of_kind (leftKind : left.kind? = some kind)
    (rightKind : right.kind? = some kind) :
    left.looselyOrder? right = left.ranked.order? right.ranked := by
  have sameKind : left.kind? = right.kind? := leftKind.trans rightKind.symm
  cases left <;> cases right <;> first | rfl | simp [kind?] at sameKind leftKind

/-- Equal values of a kind rank as equal values: null is equal to nothing but null. -/
theorem ranked_same (equal : left.same right = true) : left.ranked.same right.ranked = true := by
  cases left with
  | null =>
      cases right with
      | null => rfl
      | _ => simp [same, number?] at equal
  | _ =>
      cases right with
      | null => simp [same, number?] at equal
      | _ => exact equal

/-- Nothing is below itself. -/
theorem order?_irrefl {value : Value} (named : value.WellNamed) :
    value.order? value ≠ some .lt := by
  intro below
  have above := order?_swap named named
  rw [below] at above
  cases above

end Value

namespace Operator

open Value

/-- The laws of order within a kind. -/
structure Ordered (kind : Kind) : Prop where
  lt_irrefl : ∀ value, kind.Has value → holds .lt value value = false
  lt_trans : ∀ left middle right, kind.Has left → kind.Has middle → kind.Has right →
    holds .lt left middle = true → holds .lt middle right = true → holds .lt left right = true
  le_trans : ∀ left middle right, kind.Has left → kind.Has middle → kind.Has right →
    holds .le left middle = true → holds .le middle right = true → holds .le left right = true
  exchange_left : ∀ left other right, kind.Has left → kind.Has other → kind.Has right →
    holds .eq left other = true →
      holds .lt other right = holds .lt left right ∧ holds .le other right = holds .le left right
  exchange_right : ∀ left right other, kind.Has left → kind.Has right → kind.Has other →
    holds .eq right other = true →
      holds .lt left other = holds .lt left right ∧ holds .le left other = holds .le left right

/-- Numbers compare by exact value, and not-a-number compares with nothing at all; null is equal to
nothing but null. -/
structure ByValue : Prop where
  numbers : ∀ operator left right number other, left.number? = some number →
    right.number? = some other →
      holds operator left right = holdsIn operator (number.compareValues? other)
  notANumber : ∀ operator value, operator ≠ .ne →
    holds operator (.double .nan) value = false ∧ holds operator value (.double .nan) = false
  null : ∀ value, holds .eq .null value = true ↔ value = .null

variable {kind : Kind} {left middle right other : Value}

theorem holds_lt_iff_of_kind (leftHas : kind.Has left) (rightHas : kind.Has right) :
    holds .lt left right = true ↔ left.ranked.order? right.ranked = some .lt := by
  rw [holds_lt_iff, looselyOrder?_of_kind leftHas.isKind rightHas.isKind]

theorem holds_le_iff_of_kind (leftHas : kind.Has left) (rightHas : kind.Has right) :
    holds .le left right = true ↔ left.ranked.order? right.ranked = some .lt ∨
      left.ranked.order? right.ranked = some .eq := by
  rw [holds_le_iff, looselyOrder?_of_kind leftHas.isKind rightHas.isKind]

theorem ranked_same_of_eq (leftHas : kind.Has left) (otherHas : kind.Has other)
    (equal : holds .eq left other = true) : left.ranked.same other.ranked = true := by
  refine ranked_same ?_
  rw [← looselySame_of_kind leftHas.isKind otherHas.isKind]
  exact equal

/-- Operators that read the order alone answer alike about values of the same order. -/
theorem holds_of_order (leftHas : kind.Has left) (rightHas : kind.Has right)
    {left' right' : Value} (leftHas' : kind.Has left') (rightHas' : kind.Has right')
    (same : left'.ranked.order? right'.ranked = left.ranked.order? right.ranked) :
    holds .lt left' right' = holds .lt left right ∧
      holds .le left' right' = holds .le left right := by
  have ordered : left'.looselyOrder? right' = left.looselyOrder? right := by
    rw [looselyOrder?_of_kind leftHas'.isKind rightHas'.isKind,
      looselyOrder?_of_kind leftHas.isKind rightHas.isKind, same]
  exact ⟨by rw [holds, holds, ordered], by rw [holds, holds, ordered]⟩

theorem holds_lt_trans (leftHas : kind.Has left) (middleHas : kind.Has middle)
    (rightHas : kind.Has right) (lower : holds .lt left middle = true)
    (upper : holds .lt middle right = true) : holds .lt left right = true := by
  rw [holds_lt_iff_of_kind leftHas middleHas] at lower
  rw [holds_lt_iff_of_kind middleHas rightHas] at upper
  rw [holds_lt_iff_of_kind leftHas rightHas]
  exact order?_trans leftHas.named.ranked middleHas.named.ranked rightHas.named.ranked lower upper

/-- What is level is equal, so it can be exchanged; that leaves two strict comparisons. -/
theorem holds_le_trans (leftHas : kind.Has left) (middleHas : kind.Has middle)
    (rightHas : kind.Has right) (lower : holds .le left middle = true)
    (upper : holds .le middle right = true) : holds .le left right = true := by
  have leftNamed := leftHas.named.ranked
  have middleNamed := middleHas.named.ranked
  have rightNamed := rightHas.named.ranked
  rw [holds_le_iff_of_kind leftHas middleHas] at lower
  rw [holds_le_iff_of_kind middleHas rightHas] at upper
  rw [holds_le_iff_of_kind leftHas rightHas]
  rcases lower with below | level
  · rcases upper with above | level
    · exact .inl (order?_trans leftNamed middleNamed rightNamed below above)
    · rw [order?_congr_right middleNamed rightNamed (same_of_order? middleNamed level) leftNamed]
      exact .inl below
  · rw [← order?_congr_left leftNamed middleNamed (same_of_order? leftNamed level)]
    exact upper

theorem holds_exchange_left (leftHas : kind.Has left) (otherHas : kind.Has other)
    (rightHas : kind.Has right) (equal : holds .eq left other = true) :
    holds .lt other right = holds .lt left right ∧
      holds .le other right = holds .le left right :=
  holds_of_order leftHas rightHas otherHas rightHas
    (order?_congr_left leftHas.named.ranked otherHas.named.ranked
      (ranked_same_of_eq leftHas otherHas equal) right.ranked)

theorem holds_exchange_right (leftHas : kind.Has left) (rightHas : kind.Has right)
    (otherHas : kind.Has other) (equal : holds .eq right other = true) :
    holds .lt left other = holds .lt left right ∧
      holds .le left other = holds .le left right :=
  holds_of_order leftHas rightHas leftHas otherHas
    (order?_congr_right rightHas.named.ranked otherHas.named.ranked
      (ranked_same_of_eq rightHas otherHas equal) leftHas.named.ranked)

/-! ## Beside numbers -/

theorem toNumber?_of_number {value : Value} {number : Number}
    (isNumber : value.number? = some number) : value.toNumber? = some number := by
  cases value with
  | string text => cases isNumber
  | _ => exact isNumber

theorem asNumbers?_of_number {number : Number} (leftNumber : left.number? = some number)
    (right : Value) : asNumbers? left right = right.toNumber?.map (number, ·) := by
  unfold asNumbers?
  rw [leftNumber, toNumber?_of_number leftNumber]
  cases right.toNumber? <;> rfl

theorem holds_of_numbers {number number' : Number} (operator : Operator)
    (leftNumber : left.number? = some number) (rightNumber : right.number? = some number') :
    holds operator left right = holdsIn operator (number.order? number') := by
  refine holds_of_asNumbers? ?_ operator
  rw [asNumbers?_of_number leftNumber, toNumber?_of_number rightNumber, Option.map_some]

theorem looselySame_nan (value : Value) :
    looselySame (.double .nan) value = false ∧ value.looselySame (.double .nan) = false := by
  unfold looselySame
  rw [asNumbers?_swap (.double .nan), asNumbers?_of_number rfl value]
  cases value.toNumber? with
  | none => cases value <;> simp [same, number?, Number.same, Number.order?_nan]
  | some number => simp [Number.same, Number.order?_nan]

theorem looselyOrder?_nan (value : Value) :
    looselyOrder? (.double .nan) value = none ∧ value.looselyOrder? (.double .nan) = none := by
  unfold looselyOrder?
  rw [@ranked_of_ne_null (.double .nan) nofun, asNumbers?_swap (.double .nan),
    asNumbers?_of_number rfl value.ranked]
  cases value.ranked.toNumber? with
  | none => cases value.ranked <;> simp [order?, number?, Number.order?_nan]
  | some number => simp [Number.order?_nan]

/-- Not-a-number is below, above and equal to nothing. -/
theorem holds_nan {operator : Operator} (notNe : operator ≠ .ne) (value : Value) :
    holds operator (.double .nan) value = false ∧
      holds operator value (.double .nan) = false := by
  cases operator with
  | ne => exact absurd rfl notNe
  | eq => exact looselySame_nan value
  | lt => simp [holds, looselyOrder?_nan]
  | le => simp [holds, looselyOrder?_nan]
  | gt => simp [holds, looselyOrder?_nan]
  | ge => simp [holds, looselyOrder?_nan]

theorem holds_eq_null (value : Value) : holds .eq .null value = true ↔ value = .null := by
  constructor
  · intro equal
    by_contra present
    rw [holds, looselySame_null present] at equal
    cases equal
  · rintro rfl
    rfl

/-- Within each kind the order of rules is an order, equals can be exchanged in it, and numbers
stand in it by their exact values. -/
theorem ordered_by_kind : (∀ kind, Ordered kind) ∧ ByValue := by
  constructor
  · intro kind
    constructor
    · intro value has
      rw [Bool.eq_false_iff, ne_eq, holds_lt_iff_of_kind has has]
      exact order?_irrefl has.named.ranked
    · exact fun left middle right => holds_lt_trans
    · exact fun left middle right => holds_le_trans
    · exact fun left other right => holds_exchange_left
    · exact fun left right other => holds_exchange_right
  · constructor
    · intro operator left right number other leftNumber rightNumber
      rw [holds_of_numbers operator leftNumber rightNumber, Number.order?_eq_compareValues?]
    · exact fun operator value notNe => holds_nan notNe value
    · exact holds_eq_null

end Operator

end FeatureFlags
