import Winnow.Proofs.Number.Widening

/-!
The number that a whole number is rounded to. No other number is nearer, and where two are equally
near it is the one that ends with an even digit. Distances are compared in units, on the side of
zero on which the whole number lies.
-/

namespace Winnow

/-- A point strictly between the middles to two neighbours is nearer than what is beyond them. -/
theorem abs_sub_lt_of_middle {a b c previous next : Int} (before : previous < b)
    (after : b < next) (lower : previous + b < 2 * a) (upper : 2 * a < b + next)
    (beyond : c ≤ previous ∨ next ≤ c) : |a - b| < |a - c| := by
  obtain h | h := beyond
  · exact (abs_lt.mpr ⟨by omega, by omega⟩).trans_le (le_abs_self _)
  · rw [abs_sub_comm a c]
    exact (abs_lt.mpr ⟨by omega, by omega⟩).trans_le (le_abs_self _)

/-- A number is the nearest one to a value, and of two that are equally near the even one, which
ends with a zero. -/
structure Finite.IsNearest {f : BinaryFormat} (x : Finite f) (q : ℚ) : Prop where
  le : ∀ z : Finite f, |x.value - q| ≤ |z.value - q|
  even : ∀ z : Finite f, z.value ≠ x.value → |z.value - q| = |x.value - q| → x.rank.val % 2 = 0

namespace Finite

variable {f : BinaryFormat} {x : Finite f} {n : Int}

/-- The distance of a number from a whole number, in units. -/
theorem abs_value_sub (z : Finite f) (n : Int) :
    |z.value - n| = |n * 2 ^ f.depth - z.signedUnits| / 2 ^ f.depth := by
  have unit : (0 : ℚ) < 2 ^ f.depth := by positivity
  have whole : z.value - n = -(n * 2 ^ f.depth - z.signedUnits) / 2 ^ f.depth := by
    rw [value]
    field_simp
    ring
  rw [whole, abs_div, abs_neg, abs_of_pos unit]
  push_cast
  rfl

/-- A number is nearest to a whole number if it is so in units. -/
theorem isNearest_of_units
    (le : ∀ z : Finite f, |n * 2 ^ f.depth - x.signedUnits| ≤ |n * 2 ^ f.depth - z.signedUnits|)
    (lt : x.rank.val % 2 = 1 → ∀ z : Finite f, z.signedUnits ≠ x.signedUnits →
      |n * 2 ^ f.depth - x.signedUnits| < |n * 2 ^ f.depth - z.signedUnits|) :
    x.IsNearest n where
  le z := by
    rw [abs_value_sub, abs_value_sub]
    refine div_le_div_of_nonneg_right ?_ (by positivity)
    exact_mod_cast le z
  even z apart same := by
    by_contra odd
    have units : z.signedUnits ≠ x.signedUnits := fun h => apart (by rw [value, value, h])
    have nearer := lt (by omega) z units
    rw [abs_value_sub, abs_value_sub, div_left_inj' (by positivity)] at same
    have same : |n * 2 ^ f.depth - z.signedUnits| = |n * 2 ^ f.depth - x.signedUnits| := by
      exact_mod_cast same
    exact absurd same nearer.ne'

/-- The signed magnitude, taken from the side of a sign. -/
def unitsAlong (z : Finite f) (negative : Bool) : Int :=
  if negative then -z.signedUnits else z.signedUnits

theorem unitsAlong_self (z : Finite f) : z.unitsAlong z.negative = f.units z.rank := by
  rw [unitsAlong, signedUnits]
  split <;> simp

/-- Seen from a sign, a number is at a neighbour of a rank or beyond it, if it does not have the
rank. -/
theorem unitsAlong_apart (z : Finite f) (negative : Bool) (r : Nat) :
    z.unitsAlong negative ≤ f.units (r - 1) ∨ z.unitsAlong negative = f.units r ∨
      (f.units (r + 1) : Int) ≤ z.unitsAlong negative := by
  have apart := f.units_apart r z.rank
  rw [unitsAlong, signedUnits]
  split <;> split <;> omega

/-- The distance from a whole number does not depend on the side that it is seen from. -/
theorem abs_sub_signedUnits (z : Finite f) (n : Int) :
    |n * 2 ^ f.depth - z.signedUnits| =
      |(n.natAbs * 2 ^ f.depth : Nat) - z.unitsAlong (n < 0)| := by
  push_cast
  by_cases h : n < 0
  · have along : z.unitsAlong (n < 0) = -z.signedUnits := by simp [unitsAlong, h]
    rw [along, abs_of_neg h, ← abs_neg]
    congr 1
    ring
  · have along : z.unitsAlong (n < 0) = z.signedUnits := by simp [unitsAlong, h]
    rw [along, abs_of_nonneg (not_lt.mp h)]

section Rounded

variable (sign : x.negative = decide (n < 0))
  (rank : x.rank.val = f.nearest (n.natAbs * 2 ^ f.depth) 1) (z : Finite f)
include sign rank

/-- No number is nearer to a whole number than the one with its rank and its sign. -/
theorem abs_sub_le_of_rank :
    |n * 2 ^ f.depth - x.signedUnits| ≤ |n * 2 ^ f.depth - z.signedUnits| := by
  have own : x.unitsAlong (n < 0) = f.units x.rank := sign ▸ x.unitsAlong_self
  obtain ⟨lower, upper⟩ := f.around_nearest Nat.one_pos (n.natAbs * 2 ^ f.depth)
  rw [← rank] at lower upper
  have before := f.units_strictMono.monotone (Nat.sub_le x.rank 1)
  have after := f.units_strictMono.monotone (Nat.le_add_right x.rank 1)
  rw [abs_sub_signedUnits, abs_sub_signedUnits, own]
  apply abs_sub_le_of_middle (Int.ofNat_le.mpr before) (Int.ofNat_le.mpr after)
  · omega
  · omega
  · exact z.unitsAlong_apart _ _

/-- If the rank is odd, all numbers of another value are farther. -/
theorem abs_sub_lt_of_rank (odd : x.rank.val % 2 = 1) (other : z.signedUnits ≠ x.signedUnits) :
    |n * 2 ^ f.depth - x.signedUnits| < |n * 2 ^ f.depth - z.signedUnits| := by
  have own : x.unitsAlong (n < 0) = f.units x.rank := sign ▸ x.unitsAlong_self
  have apart : z.unitsAlong (n < 0) ≠ f.units x.rank := by
    rw [← own]
    intro same
    apply other
    rw [unitsAlong, unitsAlong] at same
    split at same <;> omega
  have inside := BinaryFormat.inside_nearest Nat.one_pos (rank ▸ odd)
  rw [← rank] at inside
  obtain ⟨lower, upper⟩ := inside
  have before : f.units (x.rank - 1) < f.units x.rank := f.units_strictMono (by omega)
  have after : f.units x.rank < f.units (x.rank + 1) := f.units_strictMono (Nat.lt_succ_self _)
  rw [abs_sub_signedUnits, abs_sub_signedUnits, own]
  apply abs_sub_lt_of_middle (Int.ofNat_lt.mpr before) (Int.ofNat_lt.mpr after)
  · omega
  · omega
  · exact (z.unitsAlong_apart _ _).imp_right fun h => h.resolve_left apart

end Rounded

end Finite

/-- A whole number is rounded to the nearest number, if that is finite. -/
theorem Binary.isNearest_ofInt {f : BinaryFormat} {n : Int} {x : Finite f}
    (h : (ofInt n : Binary f) = finite x) : x.IsNearest n := by
  obtain ⟨sign, rank⟩ : x.negative = decide (n < 0) ∧
      x.rank.val = f.nearest (n.natAbs * 2 ^ f.depth) 1 := by
    rw [ofInt_eq, ofRank] at h
    split at h
    · cases h
      exact ⟨rfl, rfl⟩
    · cases h
  exact Finite.isNearest_of_units (Finite.abs_sub_le_of_rank sign rank)
    fun odd z => Finite.abs_sub_lt_of_rank sign rank z odd

end Winnow
