import Winnow.Proofs.Formula.Literals
import Winnow.Proofs.Number.Nearest

/-!
Whole numbers as arguments. A whole number that fits into a word is bound as that word, every other
one as the fraction that is nearest to it, and readers of a query see them in their order, wherever
the change from words to fractions falls.
-/

namespace Winnow

theorem word?_eq_some_iff {n : Int} {w : Int64} : word? n = some w ↔ w.toInt = n := by
  constructor
  · exact toInt_of_word?
  · rintro rfl
    exact word?_toInt w

theorem isSome_word?_iff {n : Int} : (word? n).isSome ↔ -2 ^ 63 ≤ n ∧ n < 2 ^ 63 := by
  have least : Int64.minValue.toInt = -2 ^ 63 := by decide
  have greatest : Int64.maxValue.toInt = 2 ^ 63 - 1 := by decide
  rw [word?, least, greatest]
  split <;> simp <;> omega

namespace Value

variable {m n : Int}

theorem bindInteger_eq_integer_iff {w : Int64} :
    bindInteger n = .integer w ↔ w.toInt = n := by
  rw [bindInteger, ← word?_eq_some_iff]
  cases word? n <;> simp

/-- A whole number that does not fit is bound as the fraction that is nearest to it. -/
theorem exists_bindInteger_eq_float (h : (Quantity.integer n).IsNumeric)
    (large : ¬(-2 ^ 63 ≤ n ∧ n < 2 ^ 63)) :
    ∃ x : Finite .double, bindInteger n = .float (.finite x) ∧ x.IsNearest n := by
  obtain ⟨x, hx⟩ := h.exists_ofInt_eq
  have unfit : word? n = none := by
    rw [← Option.not_isSome_iff_eq_none, isSome_word?_iff]
    exact large
  refine ⟨x, ?_, Binary.isNearest_ofInt hx⟩
  rw [bindInteger, unfit, hx]

/-- Bound whole numbers are ordered by the places of their nearest fractions. -/
theorem order?_bindInteger (hm : (Quantity.integer m).IsNumeric)
    (hn : (Quantity.integer n).IsNumeric) :
    (bindInteger m).toJson.order? (bindInteger n).toJson =
      some (compare (BinaryFormat.double.place m) (BinaryFormat.double.place n)) := by
  have read {k : Int} (h : (Quantity.integer k).IsNumeric) :
      (bindInteger k).toJson.toDouble? = some (.ofInt k) := by
    rw [← Quantity.bound?_integer h, Quantity.bound?, Quantity.toValue, bind]
  obtain ⟨x, hx, double⟩ := Json.exists_number (read hm)
  obtain ⟨y, hy, other⟩ := Json.exists_number (read hn)
  rw [hx, hy, Json.order?, double, other, Binary.compare?_ofInt]

/-- A whole number is bound as the word that it is exactly if it fits into one, and otherwise as the
nearest fraction, the even one of two. No whole number that is not greater is read as greater. -/
theorem bind_integer_faithful (h : (Quantity.integer n).IsNumeric) :
    (∀ w : Int64, (integer n).bind = .integer w ↔ w.toInt = n) ∧
    ((∃ w : Int64, (integer n).bind = .integer w) ↔ -2 ^ 63 ≤ n ∧ n < 2 ^ 63) ∧
    (¬(-2 ^ 63 ≤ n ∧ n < 2 ^ 63) →
      ∃ x : Finite .double, (integer n).bind = .float (.finite x) ∧ x.IsNearest n) ∧
    ∀ m : Int, (Quantity.integer m).IsNumeric → m ≤ n →
      ((integer m).bind.toJson.order? (integer n).bind.toJson).any Ordering.isLE ∧
      ((integer n).bind.toJson.order? (integer m).bind.toJson).any Ordering.isGE := by
  refine ⟨fun w => ?_, ?_, fun large => ?_, fun m hm le => ?_⟩
  · rw [bind, bindInteger_eq_integer_iff]
  · rw [← isSome_word?_iff, Option.isSome_iff_exists]
    apply exists_congr
    intro w
    rw [bind, bindInteger_eq_integer_iff, word?_eq_some_iff]
  · rw [bind]
    exact exists_bindInteger_eq_float h large
  · have place : BinaryFormat.double.place m ≤ BinaryFormat.double.place n :=
      BinaryFormat.place_mono le
    rw [bind, bind, order?_bindInteger hm h, order?_bindInteger h hm]
    exact ⟨Int.isLE_compare.mpr place, Int.isGE_compare.mpr place⟩

end Value

/-- The greatest word and the number after it: the one is bound as itself, the other as a fraction,
and the order is kept. -/
theorem Bookshelf.pastWord_bind_faithful :
    (Quantity.integer (2 ^ 63)).IsNumeric ∧ (Quantity.integer (2 ^ 63 - 1)).IsNumeric ∧
      (∃ x : Finite .double, (Value.integer (2 ^ 63)).bind = .float (.finite x) ∧
        x.IsNearest (2 ^ 63 : Int)) ∧
      (Value.integer (2 ^ 63 - 1)).bind = .integer Int64.maxValue ∧
      ((Value.integer (2 ^ 63 - 1)).bind.toJson.order?
        (Value.integer (2 ^ 63)).bind.toJson).any Ordering.isLE := by
  have past : (Quantity.integer (2 ^ 63)).IsNumeric := ⟨by decide, by decide⟩
  have last : (Quantity.integer (2 ^ 63 - 1)).IsNumeric := ⟨by decide, by decide⟩
  obtain ⟨-, -, nearest, order⟩ := Value.bind_integer_faithful past
  obtain ⟨word, -, -, -⟩ := Value.bind_integer_faithful last
  exact ⟨past, last, nearest (by decide), (word _).mpr (by decide), (order _ last (by decide)).1⟩

end Winnow
