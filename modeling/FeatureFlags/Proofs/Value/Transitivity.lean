import FeatureFlags.Proofs.Value.Number

/-!
# Equality and order of values are transitive

Equal values can be exchanged in every comparison, and the order of values is transitive, numbers
of both kinds, texts and lists of anything alike.  In a list a pair may have no order at all, when
it holds null, an object, not-a-number or values of two kinds; what a comparison answers is decided
by the first pair that is unequal, and equal pairs before it carry over from one list to the next.
-/

set_option autoImplicit false

namespace FeatureFlags.Value

/-! ## Equality -/

theorem sameItems_trans {lefts : List Value} :
    ∀ {middles rights : List Value},
      (∀ left ∈ lefts, ∀ middle right, left.same middle = true → middle.same right = true →
        left.same right = true) →
      sameItems lefts middles = true → sameItems middles rights = true →
        sameItems lefts rights = true := by
  induction lefts with
  | nil =>
      intro middles rights each first second
      cases middles with
      | nil => exact second
      | cons middle middles => cases first
  | cons left lefts inductionHypothesis =>
      intro middles rights each first second
      cases middles with
      | nil => cases first
      | cons middle middles =>
          cases rights with
          | nil => cases second
          | cons right rights =>
              rw [sameItems, Bool.and_eq_true] at first second ⊢
              exact ⟨each left List.mem_cons_self middle right first.1 second.1,
                inductionHypothesis (fun item member => each item (List.mem_cons_of_mem _ member))
                  first.2 second.2⟩

theorem sameMembers_trans {lefts middles rights : List (String × Value)}
    (each : ∀ name left, (name, left) ∈ lefts → ∀ middle right, left.same middle = true →
      middle.same right = true → left.same right = true)
    (first : sameMembers lefts middles = true) (second : sameMembers middles rights = true) :
    sameMembers lefts rights = true := by
  rw [sameMembers_iff] at first second ⊢
  intro name left member
  obtain ⟨middle, found, equal⟩ := first name left member
  obtain ⟨right, foundAgain, equalAgain⟩ := second name middle (Entries.mem_of_lookup found)
  exact ⟨right, foundAgain, each name left member middle right equal equalAgain⟩

theorem same_of_numbers {left right : Value} {number other : Number}
    (leftNumber : left.number? = some number) (rightNumber : right.number? = some other) :
    left.same right = number.same other := by
  cases left <;> cases right <;> simp_all [same, number?]

theorem order?_of_numbers {left right : Value} {number other : Number}
    (leftNumber : left.number? = some number) (rightNumber : right.number? = some other) :
    left.order? right = number.order? other := by
  cases left <;> cases right <;> simp_all [order?, number?]

/-- What is equal to a number is a number. -/
theorem number?_of_same {left right : Value} {number : Number}
    (leftNumber : left.number? = some number) (equal : left.same right = true) :
    ∃ other, right.number? = some other ∧ number.same other = true := by
  cases left <;> cases right <;> simp_all [same, number?]

theorem same_trans_of_number {left middle right : Value} {number : Number}
    (leftNumber : left.number? = some number) (first : left.same middle = true)
    (second : middle.same right = true) : left.same right = true := by
  obtain ⟨between, middleNumber, equal⟩ := number?_of_same leftNumber first
  obtain ⟨other, rightNumber, equalAgain⟩ := number?_of_same middleNumber second
  rw [same_of_numbers leftNumber rightNumber, Number.same_iff, ← Number.order?_congr equal,
    ← Number.same_iff]
  exact equalAgain

theorem same_trans {left : Value} (named : left.WellNamed) :
    ∀ {middle right : Value}, left.same middle = true → middle.same right = true →
      left.same right = true := by
  induction named with
  | null =>
      intro middle right first second
      cases middle with
      | null => exact second
      | _ => simp [same, number?] at first
  | bool value => exact same_trans_of_number rfl
  | int value => exact same_trans_of_number rfl
  | double value => exact same_trans_of_number rfl
  | string text =>
      intro middle right first second
      cases middle with
      | string other =>
          rw [same, beq_iff_eq] at first
          rw [first]
          exact second
      | _ => simp [same, number?] at first
  | list each inductionHypothesis =>
      intro middle right first second
      cases middle with
      | list middles =>
          cases right with
          | list rights =>
              exact sameItems_trans
                (fun left member middle right => inductionHypothesis left member) first second
          | _ => simp [same, number?] at second
      | _ => simp [same, number?] at first
  | object apart each inductionHypothesis =>
      intro middle right first second
      cases middle with
      | object middles =>
          cases right with
          | object rights =>
              rw [same, Bool.and_eq_true, beq_iff_eq] at first second ⊢
              exact ⟨first.1.trans second.1, sameMembers_trans
                (fun name left member middle right => inductionHypothesis name left member)
                first.2 second.2⟩
          | _ => simp [same, number?] at second
      | _ => simp [same, number?] at first

theorem same_congr {left other : Value} (leftNamed : left.WellNamed) (otherNamed : other.WellNamed)
    (equal : left.same other = true) (right : Value) : other.same right = left.same right := by
  rw [Bool.eq_iff_iff]
  constructor
  · exact same_trans leftNamed equal
  · have reversed : other.same left = true := by rw [same_comm otherNamed leftNamed, equal]
    exact same_trans otherNamed reversed

/-! ## Equal values in a comparison -/

theorem orderItems?_congr {lefts : List Value} :
    ∀ {others rights : List Value},
      (∀ left ∈ lefts, ∀ other ∈ others, left.same other = true → ∀ right,
        other.same right = left.same right ∧ other.order? right = left.order? right) →
      sameItems lefts others = true → orderItems? others rights = orderItems? lefts rights := by
  induction lefts with
  | nil =>
      intro others rights each equal
      cases others with
      | nil => rfl
      | cons other others => cases equal
  | cons left lefts inductionHypothesis =>
      intro others rights each equal
      cases others with
      | nil => cases equal
      | cons other others =>
          cases rights with
          | nil => rfl
          | cons right rights =>
              rw [sameItems, Bool.and_eq_true] at equal
              obtain ⟨same, ordered⟩ :=
                each left List.mem_cons_self other List.mem_cons_self equal.1 right
              rw [orderItems?, orderItems?, same, ordered,
                inductionHypothesis (fun item here item' there =>
                  each item (List.mem_cons_of_mem _ here) item' (List.mem_cons_of_mem _ there))
                  equal.2]

theorem order?_congr_of_number {left other : Value} {number : Number}
    (leftNumber : left.number? = some number) (equal : left.same other = true) (right : Value) :
    other.order? right = left.order? right := by
  obtain ⟨number', otherNumber, same⟩ := number?_of_same leftNumber equal
  cases rightNumber : right.number? with
  | some number'' =>
      rw [order?_of_numbers leftNumber rightNumber, order?_of_numbers otherNumber rightNumber,
        Number.order?_congr same]
  | none => cases left <;> cases other <;> cases right <;> simp_all [order?, number?]

/-- Equal values have the same order with every value. -/
theorem order?_congr_left {left other : Value} (leftNamed : left.WellNamed)
    (otherNamed : other.WellNamed) (equal : left.same other = true) (right : Value) :
    other.order? right = left.order? right := by
  induction leftNamed generalizing other right with
  | null =>
      cases other with
      | null => rfl
      | _ => simp [same, number?] at equal
  | bool value => exact order?_congr_of_number rfl equal right
  | int value => exact order?_congr_of_number rfl equal right
  | double value => exact order?_congr_of_number rfl equal right
  | string text =>
      cases other with
      | string text' =>
          rw [same, beq_iff_eq] at equal
          rw [equal]
      | _ => simp [same, number?] at equal
  | list each inductionHypothesis =>
      cases other with
      | list others =>
          cases right with
          | list rights =>
              refine orderItems?_congr (fun left here other there equal right => ?_) equal
              exact ⟨same_congr (each left here) (otherNamed.item there) equal right,
                inductionHypothesis left here (otherNamed.item there) equal right⟩
          | _ => simp [order?, number?]
      | _ => simp [same, number?] at equal
  | object apart each =>
      cases other with
      | object others => cases right <;> simp [order?, number?]
      | _ => simp [same, number?] at equal

theorem order?_congr_right {right other : Value} (rightNamed : right.WellNamed)
    (otherNamed : other.WellNamed) (equal : right.same other = true) {left : Value}
    (leftNamed : left.WellNamed) : left.order? other = left.order? right := by
  rw [order?_swap otherNamed leftNamed, order?_swap rightNamed leftNamed,
    order?_congr_left rightNamed otherNamed equal left]

/-! ## The order is transitive -/

/-- A value that is below another is not equal to it. -/
theorem not_same_of_below {left right : Value} (below : left.order? right = some .lt) :
    left.same right = false := by
  rw [Bool.eq_false_iff]
  intro equal
  have present : left ≠ .null := by
    rintro rfl
    cases right <;> cases below
  have ordered : left.members? = none := by
    cases left with
    | object members => cases right <;> cases below
    | _ => rfl
  cases below.symm.trans (order?_of_same equal present ordered)

theorem orderItems?_trans {lefts : List Value} :
    ∀ {middles rights : List Value},
      (∀ left ∈ lefts, ∀ middle ∈ middles, ∀ right ∈ rights, left.order? middle = some .lt →
        middle.order? right = some .lt → left.order? right = some .lt) →
      (∀ left ∈ lefts, left.WellNamed) → (∀ middle ∈ middles, middle.WellNamed) →
        (∀ right ∈ rights, right.WellNamed) →
      orderItems? lefts middles = some .lt → orderItems? middles rights = some .lt →
        orderItems? lefts rights = some .lt := by
  induction lefts with
  | nil =>
      intro middles rights each leftsNamed middlesNamed rightsNamed lower upper
      cases rights with
      | nil => cases middles <;> cases upper
      | cons right rights => rfl
  | cons left lefts inductionHypothesis =>
      intro middles rights each leftsNamed middlesNamed rightsNamed lower upper
      cases middles with
      | nil => cases lower
      | cons middle middles =>
          cases rights with
          | nil => cases upper
          | cons right rights =>
              have leftNamed := leftsNamed left List.mem_cons_self
              have middleNamed := middlesNamed middle List.mem_cons_self
              have rightNamed := rightsNamed right List.mem_cons_self
              rw [orderItems?] at lower upper ⊢
              cases first : left.same middle with
              | true =>
                  -- The head of the first list can be exchanged for that of the second.
                  rw [first, if_pos rfl] at lower
                  rw [← same_congr leftNamed middleNamed first,
                    ← order?_congr_left leftNamed middleNamed first]
                  cases second : middle.same right with
                  | true =>
                      rw [second, if_pos rfl] at upper
                      rw [if_pos rfl]
                      exact inductionHypothesis
                        (fun item here between among other there =>
                          each item (List.mem_cons_of_mem _ here)
                            between (List.mem_cons_of_mem _ among)
                            other (List.mem_cons_of_mem _ there))
                        (fun item member => leftsNamed item (List.mem_cons_of_mem _ member))
                        (fun item member => middlesNamed item (List.mem_cons_of_mem _ member))
                        (fun item member => rightsNamed item (List.mem_cons_of_mem _ member))
                        lower upper
                  | false =>
                      rw [second] at upper
                      rw [if_neg Bool.false_ne_true] at upper ⊢
                      exact upper
              | false =>
                  rw [first, if_neg Bool.false_ne_true] at lower
                  have below : left.order? right = some .lt := by
                    cases second : middle.same right with
                    | true =>
                        rw [order?_congr_right middleNamed rightNamed second leftNamed]
                        exact lower
                    | false =>
                        rw [second, if_neg Bool.false_ne_true] at upper
                        exact each left List.mem_cons_self middle List.mem_cons_self right
                          List.mem_cons_self lower upper
                  rw [not_same_of_below below, if_neg Bool.false_ne_true]
                  exact below

theorem order?_trans_of_number {left middle right : Value} {number : Number}
    (leftNumber : left.number? = some number) (lower : left.order? middle = some .lt)
    (upper : middle.order? right = some .lt) : left.order? right = some .lt := by
  obtain ⟨between, middleNumber⟩ : ∃ between, middle.number? = some between := by
    cases left <;> cases middle <;> simp_all [order?, number?]
  obtain ⟨other, rightNumber⟩ : ∃ other, right.number? = some other := by
    cases middle <;> cases right <;> simp_all [order?, number?]
  rw [order?_of_numbers leftNumber middleNumber] at lower
  rw [order?_of_numbers middleNumber rightNumber] at upper
  rw [order?_of_numbers leftNumber rightNumber]
  exact Number.lt_trans lower upper

theorem orderText_trans {left middle right : String} (lower : orderText left middle = .lt)
    (upper : orderText middle right = .lt) : orderText left right = .lt :=
  @Std.TransCmp.lt_trans String compare _ left middle right lower upper

theorem order?_trans {left middle right : Value} (leftNamed : left.WellNamed)
    (middleNamed : middle.WellNamed) (rightNamed : right.WellNamed)
    (lower : left.order? middle = some .lt) (upper : middle.order? right = some .lt) :
    left.order? right = some .lt := by
  induction leftNamed generalizing middle right with
  | null => cases middle <;> cases lower
  | object apart each => cases middle <;> cases lower
  | bool value => exact order?_trans_of_number rfl lower upper
  | int value => exact order?_trans_of_number rfl lower upper
  | double value => exact order?_trans_of_number rfl lower upper
  | string text =>
      cases middle with
      | string between =>
          cases right with
          | string other =>
              rw [order?, Option.some.injEq] at lower upper ⊢
              exact orderText_trans lower upper
          | _ => cases upper
      | _ => cases lower
  | list each inductionHypothesis =>
      cases middle with
      | list middles =>
          cases right with
          | list rights =>
              exact orderItems?_trans
                (fun left here middle among right there => inductionHypothesis left here
                  (middleNamed.item among) (rightNamed.item there))
                (fun left member => each left member) (fun middle => middleNamed.item)
                (fun right => rightNamed.item) lower upper
          | _ => cases upper
      | _ => cases lower

end FeatureFlags.Value
