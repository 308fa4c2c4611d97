import FeatureFlags.Proofs.Value.Order
import FeatureFlags.Rule.Operator

/-!
# The operators are coherent

The six operators read one equality and one order.  Both are built on `asNumbers?`, which does not
care which side is which, so equality is symmetric and every order operator has its mirror image.
What is ordered as equals is what is equal, but for two things: beside null, which an order reads
as zero and an equality as null, and between objects, which have no order.
-/

set_option autoImplicit false

namespace FeatureFlags

namespace Value

/-! ## Two values beside each other -/

theorem asNumbers?_swap (left right : Value) :
    asNumbers? right left = (asNumbers? left right).map Prod.swap := by
  unfold asNumbers?
  rw [Bool.or_comm]
  split
  · cases left.toNumber? <;> cases right.toNumber? <;> rfl
  · rfl

theorem WellNamed.ranked {value : Value} (named : value.WellNamed) : value.ranked.WellNamed := by
  cases named with
  | null => exact .int 0
  | bool value => exact .bool value
  | int value => exact .int value
  | double value => exact .double value
  | string text => exact .string text
  | list each => exact .list each
  | object apart each => exact .object apart each

theorem ranked_of_ne_null {value : Value} (present : value ≠ .null) : value.ranked = value := by
  cases value with
  | null => exact absurd rfl present
  | _ => rfl

theorem looselySame_comm {left right : Value} (leftNamed : left.WellNamed)
    (rightNamed : right.WellNamed) : left.looselySame right = right.looselySame left := by
  unfold looselySame
  rw [asNumbers?_swap left right]
  cases asNumbers? left right with
  | none => exact same_comm leftNamed rightNamed
  | some numbers => exact Number.same_comm numbers.1 numbers.2

theorem looselyOrder?_swap {left right : Value} (leftNamed : left.WellNamed)
    (rightNamed : right.WellNamed) :
    right.looselyOrder? left = (left.looselyOrder? right).map Ordering.swap := by
  unfold looselyOrder?
  rw [asNumbers?_swap left.ranked right.ranked]
  cases asNumbers? left.ranked right.ranked with
  | none => exact order?_swap leftNamed.ranked rightNamed.ranked
  | some numbers => exact Number.order?_swap numbers.1 numbers.2

/-! ## Where equality and order part -/

/-- Converts to a number, and that is zero. -/
def StandsForZero (value : Value) : Prop :=
  ∃ number, value.toNumber? = some number ∧ number.same (.int 0) = true

/-- Null beside something that is not null but converts to zero. -/
def NullBesideZero (left right : Value) : Prop :=
  (left = .null ∧ right ≠ .null ∧ right.StandsForZero) ∨
    (right = .null ∧ left ≠ .null ∧ left.StandsForZero)

def EqualObjects (left right : Value) : Prop :=
  ∃ members others, left = .object members ∧ right = .object others ∧ left.same right = true

theorem looselySame_null {value : Value} (present : value ≠ .null) :
    looselySame .null value = false := by
  have apart : asNumbers? .null value = none := by
    unfold asNumbers?
    split <;> rfl
  rw [looselySame, apart]
  cases value with
  | null => exact absurd rfl present
  | _ => rfl

theorem asNumbers?_zero (value : Value) :
    asNumbers? (.int 0) value = value.toNumber?.map fun number => (.int 0, number) := by
  have number : ((Value.int 0).number?.isSome || value.number?.isSome) = true := rfl
  rw [asNumbers?, if_pos number]
  cases value.toNumber? <;> rfl

theorem looselyOrder?_null {value : Value} (present : value ≠ .null) :
    looselyOrder? .null value = value.toNumber?.bind (Number.order? (.int 0)) := by
  have zero : Value.null.ranked = .int 0 := rfl
  rw [looselyOrder?, ranked_of_ne_null present, zero, asNumbers?_zero]
  cases found : value.toNumber? with
  | some number => rfl
  | none =>
      cases value with
      | null => exact absurd rfl present
      | string text =>
          unfold toNumber? at found
          dsimp only at found
          split at found <;> cases found
      | list items => rfl
      | object members => rfl
      | _ => cases found

theorem standsForZero_iff {value : Value} (present : value ≠ .null) :
    value.StandsForZero ↔ looselyOrder? .null value = some .eq := by
  rw [looselyOrder?_null present, Option.bind_eq_some_iff]
  constructor
  · rintro ⟨number, found, zero⟩
    rw [Number.same_comm, Number.same_iff] at zero
    exact ⟨number, found, zero⟩
  · rintro ⟨number, found, zero⟩
    rw [← Number.same_iff, Number.same_comm] at zero
    exact ⟨number, found, zero⟩

/-- Away from null, all that can be equal without being ordered as equals are two objects. -/
theorem looselyOrder?_eq_iff {left right : Value} (named : left.WellNamed)
    (leftPresent : left ≠ .null) (rightPresent : right ≠ .null)
    (apart : ¬EqualObjects left right) :
    left.looselyOrder? right = some .eq ↔ left.looselySame right = true := by
  rw [looselyOrder?, looselySame, ranked_of_ne_null leftPresent, ranked_of_ne_null rightPresent]
  cases asNumbers? left right with
  | some numbers => exact Number.same_iff.symm
  | none =>
      refine ⟨same_of_order? named, fun equal => order?_of_same equal leftPresent ?_⟩
      cases left with
      | object members =>
          cases right with
          | object others => exact absurd ⟨members, others, rfl, rfl, equal⟩ apart
          | _ => simp [same, number?] at equal
      | _ => rfl

theorem EqualObjects.looselyOrder? {left right : Value} (equal : EqualObjects left right) :
    left.looselyOrder? right = none := by
  obtain ⟨members, others, rfl, rfl, -⟩ := equal
  rfl

theorem EqualObjects.looselySame {left right : Value} (equal : EqualObjects left right) :
    left.looselySame right = true := by
  obtain ⟨members, others, rfl, rfl, same⟩ := equal
  exact same

end Value

namespace Operator

open Value

/-! ## The operators among themselves -/

/-- What the six operators answer about two values, one by another. -/
structure Coherent (left right : Value) : Prop where
  eq_comm : holds .eq left right = holds .eq right left
  ne_eq_not : holds .ne left right = !holds .eq left right
  lt_mirror : holds .lt left right = holds .gt right left
  le_mirror : holds .le left right = holds .ge right left
  not_lt_and_ge : ¬(holds .lt left right = true ∧ holds .ge left right = true)
  not_lt_and_gt : ¬(holds .lt left right = true ∧ holds .gt left right = true)
  le_iff : (holds .le left right = true ↔
      holds .lt left right = true ∨ holds .eq left right = true) ↔
    ¬(NullBesideZero left right ∨ EqualObjects left right)

theorem holds_lt_iff {left right : Value} :
    holds .lt left right = true ↔ left.looselyOrder? right = some .lt :=
  beq_iff_eq

theorem holds_gt_iff {left right : Value} :
    holds .gt left right = true ↔ left.looselyOrder? right = some .gt :=
  beq_iff_eq

theorem holds_le_iff {left right : Value} : holds .le left right = true ↔
    left.looselyOrder? right = some .lt ∨ left.looselyOrder? right = some .eq := by
  unfold holds
  cases left.looselyOrder? right with
  | none => simp
  | some order => cases order <;> simp

theorem holds_ge_iff {left right : Value} : holds .ge left right = true ↔
    left.looselyOrder? right = some .gt ∨ left.looselyOrder? right = some .eq := by
  unfold holds
  cases left.looselyOrder? right with
  | none => simp
  | some order => cases order <;> simp

theorem holds_lt_swap {left right : Value} (leftNamed : left.WellNamed)
    (rightNamed : right.WellNamed) : holds .lt left right = holds .gt right left := by
  rw [Bool.eq_iff_iff, holds_lt_iff, holds_gt_iff, looselyOrder?_swap leftNamed rightNamed]
  cases left.looselyOrder? right with
  | none => simp
  | some order => cases order <;> simp

theorem holds_le_swap {left right : Value} (leftNamed : left.WellNamed)
    (rightNamed : right.WellNamed) : holds .le left right = holds .ge right left := by
  rw [Bool.eq_iff_iff, holds_le_iff, holds_ge_iff, looselyOrder?_swap leftNamed rightNamed]
  cases left.looselyOrder? right with
  | none => simp
  | some order => cases order <;> simp

theorem level_of_nullBesideZero {left right : Value} (leftNamed : left.WellNamed)
    (rightNamed : right.WellNamed) (beside : NullBesideZero left right) :
    left.looselyOrder? right = some .eq ∧ left.looselySame right = false := by
  rcases beside with ⟨rfl, present, zero⟩ | ⟨rfl, present, zero⟩
  · exact ⟨(standsForZero_iff present).mp zero, looselySame_null present⟩
  · have level := (standsForZero_iff present).mp zero
    rw [looselyOrder?_swap rightNamed leftNamed, level, looselySame_comm leftNamed rightNamed]
    exact ⟨rfl, looselySame_null present⟩

/-- Outside the two exceptions equality is what an order calls equal. -/
theorem level_iff {left right : Value} (leftNamed : left.WellNamed)
    (rightNamed : right.WellNamed) (beside : ¬NullBesideZero left right)
    (apart : ¬EqualObjects left right) :
    left.looselyOrder? right = some .eq ↔ left.looselySame right = true := by
  by_cases leftNull : left = .null
  · subst leftNull
    by_cases rightNull : right = .null
    · subst rightNull
      exact ⟨fun _ => rfl, fun _ => rfl⟩
    · rw [← standsForZero_iff rightNull, looselySame_null rightNull]
      exact ⟨fun zero => absurd (.inl ⟨rfl, rightNull, zero⟩) beside, nofun⟩
  · by_cases rightNull : right = .null
    · subst rightNull
      rw [looselySame_comm leftNamed rightNamed, looselySame_null leftNull,
        looselyOrder?_swap rightNamed leftNamed]
      refine ⟨fun level => absurd (.inr ⟨rfl, leftNull, ?_⟩) beside, nofun⟩
      rw [standsForZero_iff leftNull]
      obtain ⟨order, found, swapped⟩ := Option.map_eq_some_iff.mp level
      rw [found, Ordering.swap_eq_eq.mp swapped]
    · exact looselyOrder?_eq_iff leftNamed leftNull rightNull apart

theorem coherent {left right : Value} (leftNamed : left.WellNamed)
    (rightNamed : right.WellNamed) : Coherent left right where
  eq_comm := looselySame_comm leftNamed rightNamed
  ne_eq_not := rfl
  lt_mirror := holds_lt_swap leftNamed rightNamed
  le_mirror := holds_le_swap leftNamed rightNamed
  not_lt_and_ge := by
    rintro ⟨less, atLeast⟩
    rw [holds_lt_iff] at less
    rw [holds_ge_iff, less] at atLeast
    simp at atLeast
  not_lt_and_gt := by
    rintro ⟨less, more⟩
    rw [holds_lt_iff] at less
    rw [holds_gt_iff, less] at more
    cases more
  le_iff := by
    rw [holds_le_iff, holds_lt_iff]
    change (_ ↔ _ ∨ left.looselySame right = true) ↔ _
    constructor
    · rintro agrees (beside | equal)
      · obtain ⟨level, differs⟩ := level_of_nullBesideZero leftNamed rightNamed beside
        simp [level, differs] at agrees
      · simp [equal.looselyOrder?, equal.looselySame] at agrees
    · intro ordinary
      rw [not_or] at ordinary
      rw [level_iff leftNamed rightNamed ordinary.1 ordinary.2]

/-- Two lists of objects with their members in another order, and a one beside its double. -/
theorem coherent_reordered :
    Coherent (.list [.object [("on", .bool true), ("rate", .int 1)], .null])
      (.list [.object [("rate", .double (.ofInt 1)), ("on", .bool true)], .string ""]) := by
  have left : WellNamed (.object [("on", .bool true), ("rate", .int 1)]) := by
    refine .object (by decide) fun name item member => ?_
    simp only [List.mem_cons, Prod.mk.injEq, List.not_mem_nil, or_false] at member
    rcases member with ⟨-, rfl⟩ | ⟨-, rfl⟩
    · exact .bool true
    · exact .int 1
  have right : WellNamed (.object [("rate", .double (.ofInt 1)), ("on", .bool true)]) := by
    refine .object (by decide) fun name item member => ?_
    simp only [List.mem_cons, Prod.mk.injEq, List.not_mem_nil, or_false] at member
    rcases member with ⟨-, rfl⟩ | ⟨-, rfl⟩
    · exact .double _
    · exact .bool true
  refine coherent (.list fun item member => ?_) (.list fun item member => ?_)
  · simp only [List.mem_cons, List.not_mem_nil, or_false] at member
    rcases member with rfl | rfl
    · exact left
    · exact .null
  · simp only [List.mem_cons, List.not_mem_nil, or_false] at member
    rcases member with rfl | rfl
    · exact right
    · exact .string ""

end Operator

end FeatureFlags
