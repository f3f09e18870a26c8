import Mathlib.Algebra.Order.Field.Rat
import Mathlib.Algebra.Order.Ring.Int
import Mathlib.Tactic.Positivity
import Winnow.Proofs.Number.Rounding

/-!
The order of numbers. Finite numbers are ordered by their exact values. Integers keep their order
when they are rounded, though not strictly: two of them may have the same nearest number, but only
if both have more bits than a fraction and its first bit.
-/

namespace Winnow

namespace Finite

variable {f : BinaryFormat} {x y : Finite f}

/-- The exact value. -/
def value (x : Finite f) : ℚ := x.signedUnits / 2 ^ f.depth

theorem units_pos_iff {r : Nat} : 0 < f.units r ↔ 0 < r := by
  simpa using f.units_strictMono.lt_iff_lt (a := 0) (b := r)

theorem signedUnits_lt_iff : x.signedUnits < y.signedUnits ↔ x.key < y.key := by
  obtain ⟨a, m, hm⟩ := x
  obtain ⟨b, n, hn⟩ := y
  have order := f.units_strictMono.lt_iff_lt (a := m) (b := n)
  have reverse := f.units_strictMono.lt_iff_lt (a := n) (b := m)
  have left := @units_pos_iff f m
  have right := @units_pos_iff f n
  simp only [signedUnits, key]
  cases a <;> cases b <;> simp only [Bool.false_eq_true, if_true, if_false] <;> omega

theorem value_lt_iff : x.value < y.value ↔ x.key < y.key := by
  rw [value, value, div_lt_div_iff_of_pos_right (by positivity), Int.cast_lt, signedUnits_lt_iff]

theorem value_eq_iff : x.value = y.value ↔ x.key = y.key := by
  have less := @value_lt_iff f x y
  have greater := @value_lt_iff f y x
  rw [le_antisymm_iff, ← not_lt, ← not_lt, less, greater]
  omega

/-- Finite numbers of one sign and one value are the same. -/
theorem eq_of_value_eq {x y : Finite f} (sign : x.negative = y.negative)
    (value : x.value = y.value) : x = y := by
  obtain ⟨a, m, hm⟩ := x
  obtain ⟨b, n, hn⟩ := y
  have key := value_eq_iff.mp value
  cases sign
  have ranks : m = n := by
    simp only [Finite.key] at key
    split at key <;> omega
  subst ranks
  rfl

end Finite

namespace Binary

variable {f : BinaryFormat} {x y : Finite f} {m n : Int}

/-- Finite numbers are ordered by their values; the two zeros have the same. -/
theorem compare?_finite :
    (finite x : Binary f).compare? (finite y) = some (compare x.value y.value) := by
  have keys : (finite x : Binary f).compare? (finite y) = some (compare x.key y.key) := rfl
  rw [keys]
  congr 1
  rcases lt_trichotomy x.value y.value with h | h | h
  · rw [compare_lt_iff_lt.mpr h, Int.compare_eq_lt.mpr (Finite.value_lt_iff.mp h)]
  · rw [compare_eq_iff_eq.mpr h, Int.compare_eq_eq.mpr (Finite.value_eq_iff.mp h)]
  · rw [compare_gt_iff_gt.mpr h, Int.compare_eq_gt.mpr (Finite.value_lt_iff.mp h)]

/-- What is too large has the place of infinity. -/
theorem key?_ofRank (negative : Bool) (rank : Nat) :
    (ofRank negative rank : Binary f).key? =
      some (if negative then -(min rank f.top : Int) else min rank f.top) := by
  by_cases h : rank < f.top
  · rw [ofRank_of_lt_top h, key?, Finite.key]
    dsimp only
    congr 1
    split <;> omega
  · rw [ofRank_of_top_le (Nat.not_lt.mp h), key?]
    congr 1
    split <;> omega

end Binary

namespace BinaryFormat

variable {f : BinaryFormat} {m n : Nat}

/-- The rank of a natural number, or that of infinity. -/
def rankOf (f : BinaryFormat) (n : Nat) : Nat := min (f.nearest (n * 2 ^ f.depth) 1) f.top

@[simp] theorem rankOf_zero : f.rankOf 0 = 0 := by
  simp [rankOf]

theorem rankOf_mono (h : m ≤ n) : f.rankOf m ≤ f.rankOf n := by
  have := Nat.mul_le_mul_right (2 ^ f.depth) h
  have := @nearest_mono f (m * 2 ^ f.depth) (n * 2 ^ f.depth) 1 1 Nat.one_pos Nat.one_pos (by omega)
  simp only [rankOf]
  omega

/-- Natural numbers with few bits have a rank below those of all greater ones. -/
theorem rankOf_lt_rankOf (wide : f.depth + 1 ≤ 2 ^ f.exponentBits - 2) (h : m < n)
    (hm : m < 2 * 2 ^ f.fractionBits) : f.rankOf m < f.rankOf n := by
  obtain ⟨r, hr⟩ := f.exists_units hm.le f.depth
  obtain ⟨s, hs⟩ := f.exists_units (t := m + 1) hm f.depth
  have exact : f.nearest (m * 2 ^ f.depth) 1 = r := by
    simpa [hr] using nearest_units (f := f) Nat.one_pos r
  have least : s ≤ f.nearest (n * 2 ^ f.depth) 1 := by
    have next := Nat.mul_le_mul_right (2 ^ f.depth) (show m + 1 ≤ n from h)
    exact le_nearest Nat.one_pos (by omega)
  have order : r < s := by
    refine f.units_strictMono.lt_iff_lt.mp ?_
    rw [hr, hs]
    exact Nat.mul_lt_mul_of_pos_right (Nat.lt_succ_self m) (Nat.two_pow_pos _)
  have finite : r < f.top := by
    refine f.units_strictMono.lt_iff_lt.mp ?_
    rw [hr, f.units_top (by omega)]
    calc m * 2 ^ f.depth < 2 * 2 ^ f.fractionBits * 2 ^ f.depth :=
          Nat.mul_lt_mul_of_pos_right hm (Nat.two_pow_pos _)
      _ = 2 ^ (f.depth + 1 + f.fractionBits) := by ring
      _ ≤ 2 ^ (2 ^ f.exponentBits - 2 + f.fractionBits) :=
          Nat.pow_le_pow_right (by omega) (by omega)
  simp only [rankOf, exact]
  omega

/-- The place of the nearest number of an integer. -/
def place (f : BinaryFormat) (n : Int) : Int :=
  if n < 0 then -(f.rankOf n.natAbs : Int) else f.rankOf n.natAbs

theorem place_mono {m n : Int} (h : m ≤ n) : f.place m ≤ f.place n := by
  simp only [place]
  split <;> split
  · have := @rankOf_mono f n.natAbs m.natAbs (by omega)
    omega
  · omega
  · omega
  · have := @rankOf_mono f m.natAbs n.natAbs (by omega)
    omega

theorem place_lt_place (wide : f.depth + 1 ≤ 2 ^ f.exponentBits - 2) {m n : Int} (h : m < n)
    (few : m.natAbs < 2 * 2 ^ f.fractionBits ∨ n.natAbs < 2 * 2 ^ f.fractionBits) :
    f.place m < f.place n := by
  simp only [place]
  split <;> split
  · have := @rankOf_lt_rankOf f n.natAbs m.natAbs wide (by omega) (by omega)
    omega
  · have bits := Nat.two_pow_pos f.fractionBits
    have := @rankOf_lt_rankOf f 0 m.natAbs wide (by omega) (by omega)
    omega
  · omega
  · have := @rankOf_lt_rankOf f m.natAbs n.natAbs wide (by omega) (by omega)
    omega

end BinaryFormat

namespace Binary

variable {f : BinaryFormat} {m n : Int}

theorem ofInt_eq (n : Int) :
    (ofInt n : Binary f) = ofRank (n < 0) (f.nearest (n.natAbs * 2 ^ f.depth) 1) := rfl

theorem ofInt_zero : (ofInt 0 : Binary f) = ofRank false 0 := by
  rw [ofInt_eq, Int.natAbs_zero, Nat.zero_mul, BinaryFormat.nearest_zero Nat.one_pos]
  rfl

theorem key?_ofInt (n : Int) : (ofInt n : Binary f).key? = some (f.place n) := by
  rw [ofInt_eq, key?_ofRank, BinaryFormat.place, BinaryFormat.rankOf]
  simp only [decide_eq_true_eq, Nat.cast_min]

theorem compare?_ofInt (m n : Int) :
    (ofInt m : Binary f).compare? (ofInt n) = some (compare (f.place m) (f.place n)) := by
  rw [compare?, key?_ofInt, key?_ofInt]

/-- Integers are compared as what they are, if one of them has few bits. -/
theorem compare?_ofInt_exact (wide : f.depth + 1 ≤ 2 ^ f.exponentBits - 2)
    (few : m.natAbs < 2 * 2 ^ f.fractionBits ∨ n.natAbs < 2 * 2 ^ f.fractionBits) :
    (ofInt m : Binary f).compare? (ofInt n) = some (compare m n) := by
  rw [compare?_ofInt]
  congr 1
  rcases Int.lt_trichotomy m n with h | rfl | h
  · rw [Int.compare_eq_lt.mpr h, Int.compare_eq_lt.mpr (BinaryFormat.place_lt_place wide h few)]
  · rw [Int.compare_eq_eq.mpr rfl, Int.compare_eq_eq.mpr rfl]
  · rw [Int.compare_eq_gt.mpr h,
      Int.compare_eq_gt.mpr (BinaryFormat.place_lt_place wide h few.symm)]

theorem compare?_double (few : m.natAbs < 2 ^ 53 ∨ n.natAbs < 2 ^ 53) :
    (ofInt m : Double).compare? (ofInt n) = some (compare m n) :=
  have bits : 2 ^ 53 = 2 * 2 ^ BinaryFormat.double.fractionBits := by decide
  compare?_ofInt_exact (by decide) (bits ▸ few)

/-- Integers are never compared the wrong way round. -/
theorem same_ofInt_or (m n : Int) :
    (ofInt m : Binary f).same (ofInt n) = true ∨
      (ofInt m : Binary f).compare? (ofInt n) = some (compare m n) := by
  rw [same, compare?_ofInt, beq_iff_eq, Option.some.injEq, Option.some.injEq, Int.compare_eq_eq]
  rcases Int.lt_trichotomy m n with h | rfl | h
  · have := @BinaryFormat.place_mono f m n h.le
    rw [Int.compare_eq_lt.mpr h, Int.compare_eq_lt]
    omega
  · exact .inl rfl
  · have := @BinaryFormat.place_mono f n m h.le
    rw [Int.compare_eq_gt.mpr h, Int.compare_eq_gt]
    omega

end Binary

end Winnow
