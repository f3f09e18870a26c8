import Winnow.Predicate.Relation
import Winnow.Proofs.Number.Order

/-!
The order of values. All numbers, whole numbers and fractions alike, have their places in one order,
and so have all texts. Whether values are equal and whether one lies between others is known from
that order.
-/

namespace Winnow

def JsonNumber.place : JsonNumber → Int
  | integer n => BinaryFormat.double.place n
  | float x => x.key

theorem JsonNumber.key?_toDouble (n : JsonNumber) : n.toDouble.key? = some n.place := by
  cases n with
  | integer n => exact Binary.key?_ofInt n
  | float x => rfl

/-- What is not below a place is above all that are. -/
theorem compare_eq_gt_of_lt {κ : Type} [Ord κ] [Std.TransOrd κ] {v low high : κ}
    (reversed : compare high low = .lt) (above : compare v low ≠ .lt) : compare v high = .gt := by
  have below : (compare low v).isLE :=
    Std.OrientedCmp.isGE_iff_isLE.mp (Ordering.isGE_iff_ne_lt.mpr above)
  exact Std.OrientedCmp.gt_of_lt (Std.TransCmp.lt_of_lt_of_isLE reversed below)

namespace Json

/-- Two numbers, or two texts. -/
inductive Comparable : Json → Json → Prop where
  | numbers (m n : JsonNumber) : Comparable (number m) (number n)
  | texts (s t : String) : Comparable (string s) (string t)

theorem order?_number (m n : JsonNumber) :
    (number m).order? (number n) = some (compare m.place n.place) := by
  rw [order?, Binary.compare?, m.key?_toDouble, n.key?_toDouble]

theorem order?_string (s t : String) : (string s).order? (string t) = some (compare s t) := rfl

/-- Values that can be compared have an order. -/
theorem Comparable.exists_order? {v w : Json} (h : v.Comparable w) : ∃ o, v.order? w = some o := by
  cases h with
  | numbers m n => exact ⟨_, order?_number m n⟩
  | texts s t => exact ⟨_, order?_string s t⟩

/-- Of values that can be compared, those in the same place are equal. -/
theorem Comparable.equal_eq {v w : Json} {o : Ordering} (h : v.Comparable w)
    (order : v.order? w = some o) : v.equal {} w = (o == .eq) := by
  cases h with
  | numbers m n =>
      have same : (number m).equal {} (number n) = m.toDouble.same n.toDouble := rfl
      rw [order?] at order
      rw [same, Binary.same, order]
      rfl
  | texts s t =>
      obtain rfl : compare s t = o := Option.some.inj order
      have same : (string s).equal {} (string t) = (s.toList == t.toList) := rfl
      rw [same, Bool.eq_iff_iff, beq_iff_eq, beq_iff_eq, String.toList_inj,
        Std.compare_eq_iff_eq]

/-- A value lies between two others if it is neither below the one nor above the other. -/
theorem liesBetween_eq {v low high : Json} {l h : Ordering} (below : v.order? low = some l)
    (above : v.order? high = some h) : v.liesBetween low high = (l != .lt && h != .gt) := by
  rw [liesBetween, below, above]
  cases l <;> cases h <;> rfl

/-- What is not below a value is above all that is. -/
theorem order?_eq_gt_of_lt {v low high : Json} {o : Ordering}
    (reversed : high.order? low = some .lt) (order : v.order? low = some o) (above : o ≠ .lt)
    (comparable : v.Comparable high) : v.order? high = some .gt := by
  cases comparable with
  | numbers m n =>
      cases low with
      | number k =>
          rw [order?_number] at reversed order ⊢
          cases order
          exact congrArg some (compare_eq_gt_of_lt (Option.some.inj reversed) above)
      | _ => cases order
  | texts s t =>
      cases low with
      | string r =>
          rw [order?_string] at reversed order ⊢
          cases order
          exact congrArg some (compare_eq_gt_of_lt (Option.some.inj reversed) above)
      | _ => cases order

end Json

end Winnow
