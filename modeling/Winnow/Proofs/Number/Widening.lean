import Mathlib.Tactic.FieldSimp
import Winnow.Proofs.Number.Order
import Winnow.Proofs.Number.Shortest

/-!
Widening of numbers. A format that is wider than another has all numbers of the other, so converting
them changes nothing, and all middles between neighbours. A decimal that the narrow format reads as
a number is therefore read by the wide format as a number that no other narrow number is nearer to,
though not as the narrow number itself.
-/

namespace Winnow

namespace BinaryFormat

/-- A format has all the numbers of another and all the middles between two of them. -/
structure Widens (g f : BinaryFormat) : Prop where
  fractionBits : g.fractionBits < f.fractionBits
  depth : g.depth < f.depth
  narrow : 2 ≤ 2 ^ g.exponentBits
  wide : 2 ≤ 2 ^ f.exponentBits
  top : 2 ^ g.exponentBits - 2 + g.fractionBits + (f.depth - g.depth) ≤
    2 ^ f.exponentBits - 2 + f.fractionBits

theorem single_widens_double : Widens single double := by
  constructor <;> decide

variable {f g : BinaryFormat} {n d r : Nat}

namespace Widens

theorem exists_units (w : Widens g f) (r : Nat) :
    ∃ s, f.units s = g.units r * 2 ^ (f.depth - g.depth) := by
  obtain ⟨k, t, rfl, ht, hk⟩ := g.exists_parts r
  have bits : 2 ^ g.fractionBits ≤ 2 ^ f.fractionBits :=
    Nat.pow_le_pow_right (by omega) w.fractionBits.le
  obtain ⟨s, hs⟩ := f.exists_units (t := t) (by omega) (k + (f.depth - g.depth))
  exact ⟨s, by rw [hs, units_parts ht hk, Nat.pow_add, Nat.mul_assoc]⟩

theorem exists_units_middle (w : Widens g f) (r : Nat) :
    ∃ s, 2 * f.units s = (g.units r + g.units (r + 1)) * 2 ^ (f.depth - g.depth) := by
  obtain ⟨k, t, rfl, ht, hk⟩ := g.exists_parts r
  have bits : 2 ^ (g.fractionBits + 1) ≤ 2 ^ f.fractionBits :=
    Nat.pow_le_pow_right (by omega) w.fractionBits
  rw [Nat.pow_succ] at bits
  have shift : f.depth - g.depth = f.depth - g.depth - 1 + 1 := by
    have := w.depth
    omega
  obtain ⟨s, hs⟩ := f.exists_units (t := 2 * t + 1) (by omega) (k + (f.depth - g.depth - 1))
  refine ⟨s, ?_⟩
  rw [hs, units_succ, units_parts ht hk, doublings_parts ht hk, shift]
  simp only [Nat.add_sub_cancel, Nat.pow_add]
  ring

/-- What is below the infinity of the narrow format is finite. -/
theorem lt_top (w : Widens g f) {s : Nat}
    (h : f.units s < g.units g.top * 2 ^ (f.depth - g.depth)) : s < f.top := by
  refine f.units_strictMono.lt_iff_lt.mp (h.trans_le ?_)
  rw [g.units_top w.narrow, f.units_top w.wide, ← Nat.pow_add]
  exact Nat.pow_le_pow_right (by omega) w.top

/-- What is around a rank of the narrow format stays between the middles to its neighbours when it
is rounded in the wide format, for the middles are not rounded. -/
theorem nearest_between (w : Widens g f) (hd : 0 < d) (around : g.Around n d r) :
    (g.units (r - 1) + g.units r) * 2 ^ (f.depth - g.depth) ≤
        2 * f.units (f.nearest (n * 2 ^ (f.depth - g.depth)) d) ∧
      2 * f.units (f.nearest (n * 2 ^ (f.depth - g.depth)) d) ≤
        (g.units r + g.units (r + 1)) * 2 ^ (f.depth - g.depth) := by
  obtain ⟨lower, upper⟩ := around
  constructor
  · cases r with
    | zero => simp
    | succ r =>
        obtain ⟨s, hs⟩ := w.exists_units_middle r
        have below : 2 * (f.units s * d) ≤ 2 * (n * 2 ^ (f.depth - g.depth)) :=
          calc 2 * (f.units s * d) = 2 * f.units s * d := by ring
            _ = (g.units r + g.units (r + 1)) * d * 2 ^ (f.depth - g.depth) := by rw [hs]; ring
            _ ≤ 2 * n * 2 ^ (f.depth - g.depth) := Nat.mul_le_mul_right _ lower
            _ = 2 * (n * 2 ^ (f.depth - g.depth)) := by ring
        have order := f.units_strictMono.monotone (le_nearest hd (Nat.le_of_mul_le_mul_left below
          Nat.two_pos))
        rw [Nat.add_sub_cancel, ← hs]
        omega
  · obtain ⟨s, hs⟩ := w.exists_units_middle r
    have above : 2 * (n * 2 ^ (f.depth - g.depth)) ≤ 2 * (f.units s * d) :=
      calc 2 * (n * 2 ^ (f.depth - g.depth)) = 2 * n * 2 ^ (f.depth - g.depth) := by ring
        _ ≤ (g.units r + g.units (r + 1)) * d * 2 ^ (f.depth - g.depth) :=
          Nat.mul_le_mul_right _ upper
        _ = 2 * f.units s * d := by rw [hs]; ring
        _ = 2 * (f.units s * d) := by ring
    have order := f.units_strictMono.monotone (nearest_le hd (Nat.le_of_mul_le_mul_left above
      Nat.two_pos))
    rw [← hs]
    omega

end Widens

end BinaryFormat

/-- A point between the middles to two neighbours is not nearer to what is beyond them. -/
theorem abs_sub_le_of_middle {a b c previous next : Int} (before : previous ≤ b)
    (after : b ≤ next) (lower : previous + b ≤ 2 * a) (upper : 2 * a ≤ b + next)
    (beyond : c ≤ previous ∨ c = b ∨ next ≤ c) : |a - b| ≤ |a - c| := by
  obtain h | rfl | h := beyond
  · exact (abs_le.mpr ⟨by omega, by omega⟩).trans (le_abs_self _)
  · exact le_refl _
  · rw [abs_sub_comm a c]
    exact (abs_le.mpr ⟨by omega, by omega⟩).trans (le_abs_self _)

namespace Finite

variable {f g : BinaryFormat}

/-- The signed value in units of a wider format. -/
def wideUnits (f : BinaryFormat) (x : Finite g) : Int :=
  if x.negative then -(g.units x.rank * 2 ^ (f.depth - g.depth) : Nat)
  else (g.units x.rank * 2 ^ (f.depth - g.depth) : Nat)

theorem value_eq_wideUnits (w : g.Widens f) (x : Finite g) :
    x.value = x.wideUnits f / 2 ^ f.depth := by
  have depth : (2 : ℚ) ^ f.depth = 2 ^ (f.depth - g.depth) * 2 ^ g.depth := by
    rw [← pow_add, Nat.sub_add_cancel w.depth.le]
  rw [value, depth, signedUnits, wideUnits]
  split <;> push_cast <;> field_simp

/-- A number keeps its sign and its value in a wider format. -/
theorem convert_finite (w : g.Widens f) (x : Finite g) :
    ∃ y : Finite f, (Binary.finite x).convert = .finite y ∧ y.negative = x.negative ∧
      y.value = x.value := by
  obtain ⟨s, hs⟩ := w.exists_units x.rank
  have depth : 2 ^ f.depth = 2 ^ (f.depth - g.depth) * 2 ^ g.depth := by
    rw [← Nat.pow_add, Nat.sub_add_cancel w.depth.le]
  have exact : f.nearest (g.units x.rank * 2 ^ f.depth) (2 ^ g.depth) = s := by
    rw [depth, ← Nat.mul_assoc, ← hs]
    exact BinaryFormat.nearest_units (Nat.two_pow_pos _) s
  have finite : s < f.top := by
    refine w.lt_top ?_
    rw [hs]
    exact Nat.mul_lt_mul_of_pos_right (g.units_strictMono x.rank.isLt) (Nat.two_pow_pos _)
  refine ⟨⟨x.negative, s, finite⟩, ?_, rfl, ?_⟩
  · rw [← Binary.ofRank_of_lt_top finite, ← exact]
    rfl
  · rw [value_eq_wideUnits w, value, signedUnits, wideUnits, ← hs]

/-- The wide format reads the shortest decimal of a narrow number between the middles to its
neighbours. -/
theorem exists_toBinary_between (w : g.Widens f) (x : Finite g) :
    ∃ y : Finite f, x.toDecimal.toBinary f = .finite y ∧ y.negative = x.negative ∧
      (g.units (x.rank - 1) + g.units x.rank) * 2 ^ (f.depth - g.depth) ≤ 2 * f.units y.rank ∧
      2 * f.units y.rank ≤
        (g.units x.rank + g.units (x.rank + 1)) * 2 ^ (f.depth - g.depth) := by
  have hd := x.toDecimal.denominator_pos
  have around := BinaryFormat.around_nearest (f := g) hd (x.toDecimal.numerator * 2 ^ g.depth)
  rw [nearest_toDecimal] at around
  have widened : x.toDecimal.numerator * 2 ^ f.depth =
      x.toDecimal.numerator * 2 ^ g.depth * 2 ^ (f.depth - g.depth) := by
    rw [Nat.mul_assoc, ← Nat.pow_add, Nat.add_sub_cancel' w.depth.le]
  obtain ⟨lower, upper⟩ := w.nearest_between hd around
  rw [← widened] at lower upper
  have finite :
      f.nearest (x.toDecimal.numerator * 2 ^ f.depth) x.toDecimal.denominator < f.top := by
    have low : g.units x.rank < g.units g.top := g.units_strictMono x.rank.isLt
    have high : g.units (x.rank + 1) ≤ g.units g.top := g.units_strictMono.monotone x.rank.isLt
    have twice : (g.units x.rank + g.units (x.rank + 1)) * 2 ^ (f.depth - g.depth) <
        2 * g.units g.top * 2 ^ (f.depth - g.depth) :=
      Nat.mul_lt_mul_of_pos_right (by omega) (Nat.two_pow_pos _)
    rw [Nat.mul_assoc] at twice
    exact w.lt_top (by omega)
  refine ⟨⟨x.negative, _, finite⟩, ?_, rfl, lower, upper⟩
  rw [Decimal.toBinary_eq, ← Binary.ofRank_of_lt_top finite]
  rfl

/-- No narrow number is nearer to what the wide format reads than the number that was written. -/
theorem exists_toBinary_toDecimal (w : g.Widens f) (x : Finite g) :
    ∃ y : Finite f, x.toDecimal.toBinary f = .finite y ∧ y.negative = x.negative ∧
      ∀ z : Finite g, |y.value - x.value| ≤ |y.value - z.value| := by
  obtain ⟨y, read, sign, lower, upper⟩ := x.exists_toBinary_between w
  refine ⟨y, read, sign, fun z => ?_⟩
  have scale {a b : Nat} (h : a ≤ b) : a * 2 ^ (f.depth - g.depth) ≤ b * 2 ^ (f.depth - g.depth) :=
    Nat.mul_le_mul_right _ h
  have place := (g.units_apart x.rank z.rank).imp scale
    (Or.imp (congrArg (· * 2 ^ (f.depth - g.depth))) scale)
  have before := scale (g.units_strictMono.monotone (Nat.sub_le x.rank 1))
  have after := scale (g.units_strictMono.monotone (Nat.le_add_right x.rank 1))
  rw [Nat.add_mul] at lower upper
  have nearer : |y.signedUnits - x.wideUnits f| ≤ |y.signedUnits - z.wideUnits f| := by
    rw [signedUnits, wideUnits, wideUnits, sign]
    cases x.negative with
    | false =>
        simp only [Bool.false_eq_true, if_false]
        refine abs_sub_le_of_middle (Int.ofNat_le.mpr before) (Int.ofNat_le.mpr after)
          (by omega) (by omega) ?_
        split <;> omega
    | true =>
        simp only [if_true]
        refine abs_sub_le_of_middle (neg_le_neg (Int.ofNat_le.mpr after))
          (neg_le_neg (Int.ofNat_le.mpr before)) (by omega) (by omega) ?_
        split <;> omega
  rw [value, value_eq_wideUnits w x, value_eq_wideUnits w z, ← sub_div, ← sub_div, abs_div, abs_div]
  refine div_le_div_of_nonneg_right ?_ (abs_nonneg _)
  exact_mod_cast nearer

end Finite

end Winnow
