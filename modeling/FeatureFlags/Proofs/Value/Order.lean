import FeatureFlags.Proofs.Double.Order
import FeatureFlags.Proofs.Entries
import FeatureFlags.Value.Order

/-!
# Equality and order of values

Equality of values is symmetric, exchanging two values swaps their order, and values that have an
order are ordered as equals just when they are equal; only null and the objects are equal to
something without having an order.  All that is asked of a value is that its objects name their
members apart: of two tables with a name twice each could find what the other misses.
-/

set_option autoImplicit false

namespace FeatureFlags

/-! ## Numbers -/

namespace Number

theorem order?_swap (left right : Number) :
    right.order? left = (left.order? right).map Ordering.swap := by
  cases left with
  | int left =>
      cases right with
      | int right => rw [order?, order?, Option.map_some, Int.compare_swap]
      | double right => rw [order?, order?]
  | double left =>
      cases right with
      | int right =>
          rw [order?, order?, Option.map_map]
          cases Double.orderInt? right left <;> simp
      | double right => exact Double.order?_swap left right

theorem same_iff {left right : Number} : left.same right = true ↔ left.order? right = some .eq :=
  beq_iff_eq

theorem same_comm (left right : Number) : left.same right = right.same left := by
  rw [Bool.eq_iff_iff, same_iff, same_iff, order?_swap left right]
  simp [Option.map_eq_some_iff]

end Number

namespace Value

/-- Every object, however deep, names its members apart. -/
inductive WellNamed : Value → Prop where
  | null : WellNamed .null
  | bool (value : Bool) : WellNamed (.bool value)
  | int (value : Int) : WellNamed (.int value)
  | double (value : Double) : WellNamed (.double value)
  | string (text : String) : WellNamed (.string text)
  | list {items : List Value} (each : ∀ item ∈ items, WellNamed item) : WellNamed (.list items)
  | object {members : List (String × Value)} (apart : (members.map Prod.fst).Nodup)
      (each : ∀ name item, (name, item) ∈ members → WellNamed item) : WellNamed (.object members)

namespace WellNamed

theorem item {items : List Value} (named : WellNamed (.list items)) {item : Value}
    (member : item ∈ items) : item.WellNamed := by
  cases named with
  | list each => exact each item member

theorem apart {members : List (String × Value)} (named : WellNamed (.object members)) :
    (members.map Prod.fst).Nodup := by
  cases named with
  | object apart each => exact apart

theorem member {members : List (String × Value)} (named : WellNamed (.object members))
    {name : String} {item : Value} (present : (name, item) ∈ members) : item.WellNamed := by
  cases named with
  | object apart each => exact each name item present

end WellNamed

/-! ## Equality is symmetric -/

theorem sameItems_comm {lefts : List Value} :
    ∀ {rights : List Value},
      (∀ left ∈ lefts, ∀ right ∈ rights, left.same right = right.same left) →
        sameItems lefts rights = sameItems rights lefts := by
  induction lefts with
  | nil =>
      intro rights each
      cases rights <;> rfl
  | cons left lefts inductionHypothesis =>
      intro rights each
      cases rights with
      | nil => rfl
      | cons right rights =>
          rw [sameItems, sameItems, each left List.mem_cons_self right List.mem_cons_self,
            inductionHypothesis fun item here other there =>
              each item (List.mem_cons_of_mem _ here) other (List.mem_cons_of_mem _ there)]

theorem sameMembers_iff {lefts rights : List (String × Value)} :
    sameMembers lefts rights = true ↔ ∀ name left, (name, left) ∈ lefts →
      ∃ right, rights.lookup name = some right ∧ left.same right = true := by
  induction lefts with
  | nil => simp [sameMembers]
  | cons head lefts inductionHypothesis =>
      obtain ⟨present, item⟩ := head
      rw [sameMembers, Bool.and_eq_true, inductionHypothesis]
      constructor
      · rintro ⟨first, later⟩ name left member
        rcases List.mem_cons.mp member with here | after
        · cases here
          cases found : rights.lookup present with
          | none => simp [found] at first
          | some right => exact ⟨right, rfl, by simpa [found] using first⟩
        · exact later name left after
      · intro each
        obtain ⟨right, found, equal⟩ := each present item List.mem_cons_self
        rw [found]
        exact ⟨equal, fun name left member => each name left (List.mem_cons_of_mem _ member)⟩

theorem sameMembers_flip {lefts rights : List (String × Value)}
    (leftApart : (lefts.map Prod.fst).Nodup) (rightApart : (rights.map Prod.fst).Nodup)
    (long : lefts.length = rights.length)
    (each : ∀ name left, (name, left) ∈ lefts → ∀ right, (name, right) ∈ rights →
      left.same right = right.same left)
    (within : sameMembers lefts rights = true) : sameMembers rights lefts = true := by
  rw [sameMembers_iff] at within ⊢
  have names : lefts.map Prod.fst ⊆ rights.map Prod.fst := by
    intro name present
    obtain ⟨⟨_, left⟩, member, rfl⟩ := List.mem_map.mp present
    obtain ⟨right, found, -⟩ := within _ left member
    exact List.mem_map.mpr ⟨_, Entries.mem_of_lookup found, rfl⟩
  have permuted : (lefts.map Prod.fst).Perm (rights.map Prod.fst) :=
    (leftApart.subperm names).perm_of_length_le (by simp [long])
  intro name right member
  obtain ⟨⟨_, left⟩, present, rfl⟩ :=
    List.mem_map.mp (permuted.mem_iff.mpr (List.mem_map_of_mem member))
  obtain ⟨other, found, equal⟩ := within _ left present
  rw [Entries.lookup_of_mem rightApart member] at found
  cases found
  exact ⟨left, Entries.lookup_of_mem leftApart present, each _ left present right member ▸ equal⟩

theorem same_comm {left right : Value} (leftNamed : left.WellNamed)
    (rightNamed : right.WellNamed) : left.same right = right.same left := by
  induction leftNamed generalizing right with
  | null => cases right <;> simp [same, number?]
  | string text => cases right <;> simp [same, number?, BEq.comm]
  | bool value => cases right <;> simp [same, number?, Number.same_comm]
  | int value => cases right <;> simp [same, number?, Number.same_comm]
  | double value => cases right <;> simp [same, number?, Number.same_comm]
  | list each inductionHypothesis =>
      cases right with
      | list rights =>
          rw [same, same]
          exact sameItems_comm fun left here right there =>
            inductionHypothesis left here (rightNamed.item there)
      | _ => simp [same, number?]
  | @object lefts apart each inductionHypothesis =>
      cases right with
      | object rights =>
          have each' : ∀ name left, (name, left) ∈ lefts → ∀ right, (name, right) ∈ rights →
              left.same right = right.same left := fun name left here right there =>
            inductionHypothesis name left here (rightNamed.member there)
          rw [same, same, Bool.eq_iff_iff, Bool.and_eq_true, Bool.and_eq_true, beq_iff_eq,
            beq_iff_eq]
          constructor
          · rintro ⟨long, within⟩
            exact ⟨long.symm, sameMembers_flip apart rightNamed.apart long each' within⟩
          · rintro ⟨long, within⟩
            exact ⟨long.symm, sameMembers_flip rightNamed.apart apart long
              (fun name right there left here => (each' name left here right there).symm) within⟩
      | _ => simp [same, number?]

/-! ## Exchanging values swaps their order -/

theorem orderText_swap (left right : String) :
    orderText right left = (orderText left right).swap :=
  @Std.OrientedCmp.eq_swap String compare _ right left

theorem orderItems?_swap {lefts : List Value} :
    ∀ {rights : List Value},
      (∀ left ∈ lefts, ∀ right ∈ rights, left.same right = right.same left ∧
        right.order? left = (left.order? right).map Ordering.swap) →
      orderItems? rights lefts = (orderItems? lefts rights).map Ordering.swap := by
  induction lefts with
  | nil =>
      intro rights each
      cases rights <;> rfl
  | cons left lefts inductionHypothesis =>
      intro rights each
      cases rights with
      | nil => rfl
      | cons right rights =>
          obtain ⟨symmetric, swapped⟩ := each left List.mem_cons_self right List.mem_cons_self
          rw [orderItems?, orderItems?, ← symmetric]
          split
          · exact inductionHypothesis fun item here other there =>
              each item (List.mem_cons_of_mem _ here) other (List.mem_cons_of_mem _ there)
          · exact swapped

theorem order?_swap {left right : Value} (leftNamed : left.WellNamed)
    (rightNamed : right.WellNamed) :
    right.order? left = (left.order? right).map Ordering.swap := by
  induction leftNamed generalizing right with
  | null => cases right <;> simp [order?, number?]
  | string text => cases right <;> simp [order?, number?, orderText_swap text]
  | bool value => cases right <;> simp [order?, number?, Number.order?_swap (.int value.toInt)]
  | int value => cases right <;> simp [order?, number?, Number.order?_swap (.int value)]
  | double value => cases right <;> simp [order?, number?, Number.order?_swap (.double value)]
  | list each inductionHypothesis =>
      cases right with
      | list rights =>
          rw [order?, order?]
          exact orderItems?_swap fun left here right there =>
            ⟨same_comm (each left here) (rightNamed.item there),
              inductionHypothesis left here (rightNamed.item there)⟩
      | _ => simp [order?, number?]
  | object apart each => cases right <;> simp [order?, number?]

/-! ## Ordered as equals and equal -/

theorem orderText_eq_iff {left right : String} : orderText left right = .eq ↔ left = right :=
  @Std.LawfulEqCmp.compare_eq_iff_eq String compare _ left right

theorem sameItems_of_orderItems? {lefts : List Value} :
    ∀ {rights : List Value},
      (∀ left ∈ lefts, ∀ right, left.order? right = some .eq → left.same right = true) →
      orderItems? lefts rights = some .eq → sameItems lefts rights = true := by
  induction lefts with
  | nil =>
      intro rights each level
      cases rights with
      | nil => rfl
      | cons right rights => cases level
  | cons left lefts inductionHypothesis =>
      intro rights each level
      cases rights with
      | nil => cases level
      | cons right rights =>
          rw [orderItems?] at level
          split at level
          next equal =>
              rw [sameItems, equal, Bool.true_and]
              exact inductionHypothesis
                (fun item member => each item (List.mem_cons_of_mem _ member)) level
          next differs => exact absurd (each left List.mem_cons_self right level) differs

theorem orderItems?_of_sameItems {lefts : List Value} :
    ∀ {rights : List Value}, sameItems lefts rights = true →
      orderItems? lefts rights = some .eq := by
  induction lefts with
  | nil =>
      intro rights equal
      cases rights with
      | nil => rfl
      | cons right rights => cases equal
  | cons left lefts inductionHypothesis =>
      intro rights equal
      cases rights with
      | nil => cases equal
      | cons right rights =>
          rw [sameItems, Bool.and_eq_true] at equal
          rw [orderItems?, if_pos equal.1]
          exact inductionHypothesis equal.2

/-- Values that are ordered as equals are equal. -/
theorem same_of_order? {left : Value} (named : left.WellNamed) :
    ∀ {right : Value}, left.order? right = some .eq → left.same right = true := by
  induction named with
  | null =>
      intro right level
      cases right <;> cases level
  | object apart each =>
      intro right level
      cases right <;> cases level
  | string text =>
      intro right level
      cases right with
      | string other =>
          rw [order?, Option.some.injEq, orderText_eq_iff] at level
          rw [same, level, beq_self_eq_true]
      | _ => cases level
  | bool value =>
      intro right level
      cases right <;> simp_all [order?, same, number?, Number.same_iff]
  | int value =>
      intro right level
      cases right <;> simp_all [order?, same, number?, Number.same_iff]
  | double value =>
      intro right level
      cases right <;> simp_all [order?, same, number?, Number.same_iff]
  | list each inductionHypothesis =>
      intro right level
      cases right with
      | list rights =>
          rw [order?] at level
          rw [same]
          exact sameItems_of_orderItems? (fun left member right => inductionHypothesis left member)
            level
      | _ => cases level

theorem order?_of_same {left right : Value} (equal : left.same right = true)
    (present : left ≠ .null) (ordered : left.members? = none) :
    left.order? right = some .eq := by
  cases left with
  | null => exact absurd rfl present
  | object members => cases ordered
  | string text =>
      cases right with
      | string other =>
          rw [same, beq_iff_eq] at equal
          rw [order?, orderText_eq_iff.mpr equal]
      | _ => simp [same, number?] at equal
  | list lefts =>
      cases right with
      | list rights => exact orderItems?_of_sameItems equal
      | _ => simp [same, number?] at equal
  | bool value => cases right <;> simp_all [order?, same, number?, Number.same_iff]
  | int value => cases right <;> simp_all [order?, same, number?, Number.same_iff]
  | double value => cases right <;> simp_all [order?, same, number?, Number.same_iff]

end Value

end FeatureFlags
