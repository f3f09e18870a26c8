import Mathlib.Algebra.Order.Ring.Nat
import Mathlib.Order.Monotone.Basic
import Mathlib.Tactic.Common
import Mathlib.Tactic.Ring
import Winnow.Number.Numeral

/-!
Rounding of fractions. A fraction lies between two neighbouring ranks and is rounded to one of them,
so ranks grow with the fraction, and a fraction that is the magnitude of a rank has that rank. What
is known of the fractions of one rank are the ends of an interval around its magnitude.
-/

namespace Winnow

namespace BinaryFormat

variable {f : BinaryFormat} {r s t n m d e : Nat}

/-! ### Magnitudes of ranks -/

/-- A rank is the number of doublings and the leading bits of its magnitude. -/
theorem exists_parts (f : BinaryFormat) (r : Nat) :
    ∃ s t, r = s * 2 ^ f.fractionBits + t ∧ t < 2 * 2 ^ f.fractionBits ∧
      (s = 0 ∨ 2 ^ f.fractionBits ≤ t) := by
  have bits := Nat.two_pow_pos f.fractionBits
  by_cases h : r < 2 ^ f.fractionBits
  · exact ⟨0, r, by omega, by omega, .inl rfl⟩
  · have mod := Nat.mod_lt (r - 2 ^ f.fractionBits) bits
    have parts := Nat.div_add_mod' (r - 2 ^ f.fractionBits) (2 ^ f.fractionBits)
    exact ⟨(r - 2 ^ f.fractionBits) / 2 ^ f.fractionBits,
      2 ^ f.fractionBits + (r - 2 ^ f.fractionBits) % 2 ^ f.fractionBits,
      by omega, by omega, .inr (by omega)⟩

theorem doublings_parts (ht : t < 2 * 2 ^ f.fractionBits) (hs : s = 0 ∨ 2 ^ f.fractionBits ≤ t) :
    f.doublings (s * 2 ^ f.fractionBits + t) = s := by
  have bits := Nat.two_pow_pos f.fractionBits
  have sum : (s * 2 ^ f.fractionBits + t) / 2 ^ f.fractionBits = s + t / 2 ^ f.fractionBits := by
    rw [Nat.add_comm, Nat.add_mul_div_right _ _ bits, Nat.add_comm]
  have upper : t / 2 ^ f.fractionBits < 2 := by rwa [Nat.div_lt_iff_lt_mul bits]
  rw [doublings, Nat.pow_eq, sum]
  rcases hs with rfl | hs
  · omega
  · have lower : 1 ≤ t / 2 ^ f.fractionBits := by rwa [Nat.le_div_iff_mul_le bits, Nat.one_mul]
    omega

theorem units_parts (ht : t < 2 * 2 ^ f.fractionBits) (hs : s = 0 ∨ 2 ^ f.fractionBits ≤ t) :
    f.units (s * 2 ^ f.fractionBits + t) = t * 2 ^ s := by
  rw [units, doublings_parts ht hs, Nat.pow_eq, Nat.pow_eq, Nat.add_sub_cancel_left]

@[simp] theorem units_zero : f.units 0 = 0 := by
  simp [units]

/-- The distance to the next rank. -/
theorem units_succ (f : BinaryFormat) (r : Nat) :
    f.units (r + 1) = f.units r + 2 ^ f.doublings r := by
  obtain ⟨s, t, rfl, ht, hs⟩ := f.exists_parts r
  rw [units_parts ht hs, doublings_parts ht hs]
  by_cases next : t + 1 < 2 * 2 ^ f.fractionBits
  · rw [Nat.add_assoc, units_parts next (hs.imp_right fun h => by omega), Nat.add_mul, Nat.one_mul]
  · -- The leading bits are full, so the distance doubles.
    have full : t + 1 = 2 * 2 ^ f.fractionBits := by omega
    have carry : s * 2 ^ f.fractionBits + t + 1 =
        (s + 1) * 2 ^ f.fractionBits + 2 ^ f.fractionBits := by
      rw [Nat.add_assoc, full]
      ring
    have bits := Nat.two_pow_pos f.fractionBits
    rw [carry, units_parts (by omega) (.inr (Nat.le_refl _))]
    calc 2 ^ f.fractionBits * 2 ^ (s + 1) = (t + 1) * 2 ^ s := by rw [full]; ring
      _ = t * 2 ^ s + 2 ^ s := by ring

theorem units_strictMono (f : BinaryFormat) : StrictMono f.units := by
  refine strictMono_nat_of_lt_succ fun r => ?_
  rw [units_succ]
  exact Nat.lt_add_of_pos_right (Nat.two_pow_pos _)

/-- Another magnitude is at a neighbour of a rank or beyond it. -/
theorem units_apart (f : BinaryFormat) (r s : Nat) :
    f.units s ≤ f.units (r - 1) ∨ f.units s = f.units r ∨ f.units (r + 1) ≤ f.units s := by
  rcases Nat.lt_trichotomy s r with h | rfl | h
  · exact .inl (f.units_strictMono.monotone (Nat.le_sub_one_of_lt h))
  · exact .inr (.inl rfl)
  · exact .inr (.inr (f.units_strictMono.monotone h))

/-- A number with no more leading bits than a fraction and its first bit is a magnitude. -/
theorem exists_units (f : BinaryFormat) (ht : t ≤ 2 * 2 ^ f.fractionBits) (k : Nat) :
    ∃ r, f.units r = t * 2 ^ k := by
  have bits := Nat.two_pow_pos f.fractionBits
  by_cases full : t = 2 * 2 ^ f.fractionBits
  · refine ⟨(k + 1) * 2 ^ f.fractionBits + 2 ^ f.fractionBits, ?_⟩
    rw [units_parts (by omega) (.inr (Nat.le_refl _)), full]
    ring
  have ht : t < 2 * 2 ^ f.fractionBits := by omega
  clear full
  -- The leading bit is moved up as far as there are doublings left.
  induction k generalizing t with
  | zero => exact ⟨0 * 2 ^ f.fractionBits + t, units_parts ht (.inl rfl)⟩
  | succ k ih =>
      by_cases h : t < 2 ^ f.fractionBits
      · obtain ⟨r, hr⟩ := @ih (2 * t) (by omega) (by omega)
        exact ⟨r, hr.trans (by ring)⟩
      · exact ⟨(k + 1) * 2 ^ f.fractionBits + t, units_parts ht (.inr (by omega))⟩

theorem units_top (f : BinaryFormat) (h : 2 ≤ 2 ^ f.exponentBits) :
    f.units f.top = 2 ^ (2 ^ f.exponentBits - 2 + f.fractionBits) := by
  have bits := Nat.two_pow_pos f.fractionBits
  have parts : f.top = (2 ^ f.exponentBits - 2) * 2 ^ f.fractionBits + 2 ^ f.fractionBits := by
    rw [top, Nat.pow_eq, Nat.pow_eq, ← Nat.succ_mul]
    congr 1
    omega
  rw [parts, units_parts (by omega) (.inr (Nat.le_refl _)), Nat.pow_add, Nat.mul_comm]

/-! ### Rounding -/

/-- The leading bits of a fraction. -/
theorem floor_parts (f : BinaryFormat) (n d : Nat) :
    n / (d * 2 ^ ((n / d).log2 - f.fractionBits)) < 2 * 2 ^ f.fractionBits ∧
      ((n / d).log2 - f.fractionBits = 0 ∨
        2 ^ f.fractionBits ≤ n / (d * 2 ^ ((n / d).log2 - f.fractionBits))) := by
  rw [← Nat.div_div_eq_div_mul, Nat.div_lt_iff_lt_mul (Nat.two_pow_pos _),
    Nat.le_div_iff_mul_le (Nat.two_pow_pos _), ← Nat.pow_succ', ← Nat.pow_add, ← Nat.pow_add]
  constructor
  · exact Nat.lt_log2_self.trans_le (Nat.pow_le_pow_right (by omega) (by omega))
  · by_cases h : (n / d).log2 - f.fractionBits = 0
    · exact .inl h
    · have pos : n / d ≠ 0 := by
        intro hz
        simp [hz] at h
      refine .inr ((Nat.le_log2 pos).mp ?_)
      omega

/-- A fraction between two neighbours goes to the nearer one, or to the even one half way. -/
theorem nearest_eq (hd : 0 < d) (lower : f.units r * d ≤ n) (upper : n < f.units (r + 1) * d) :
    f.nearest n d =
      if 2 * n < (f.units r + f.units (r + 1)) * d ∨
          2 * n = (f.units r + f.units (r + 1)) * d ∧ r % 2 = 0 then r
      else r + 1 := by
  obtain ⟨ht, hs⟩ := f.floor_parts n d
  rw [nearest, Nat.pow_eq, Nat.pow_eq]
  generalize (n / d).log2 - f.fractionBits = s at ht hs
  have unit : 0 < d * 2 ^ s := Nat.mul_pos hd (Nat.two_pow_pos s)
  have division := Nat.div_add_mod' n (d * 2 ^ s)
  have rest := Nat.mod_lt n unit
  generalize n / (d * 2 ^ s) = t at ht hs division
  have size := units_parts ht hs
  have next : f.units (s * 2 ^ f.fractionBits + t + 1) = t * 2 ^ s + 2 ^ s := by
    rw [units_succ, size, doublings_parts ht hs]
  have whole : t * (d * 2 ^ s) = t * 2 ^ s * d := by ring
  have step : 2 ^ s * d = d * 2 ^ s := Nat.mul_comm ..
  -- Ranks grow with their magnitudes, so the rank is the one that is computed.
  obtain rfl : r = s * 2 ^ f.fractionBits + t := by
    refine Nat.le_antisymm (Nat.lt_add_one_iff.mp (f.units_strictMono.lt_iff_lt.mp ?_))
      (Nat.lt_add_one_iff.mp (f.units_strictMono.lt_iff_lt.mp ?_))
    · refine Nat.lt_of_mul_lt_mul_right (a := d) ?_
      rw [next, Nat.add_mul]
      omega
    · refine Nat.lt_of_mul_lt_mul_right (a := d) ?_
      rw [size]
      omega
  rw [next, size]
  have middle : (t * 2 ^ s + (t * 2 ^ s + 2 ^ s)) * d = 2 * (t * 2 ^ s * d) + 2 ^ s * d := by ring
  rw [middle]
  refine if_congr (or_congr ?_ (and_congr_left fun _ => ?_)) rfl rfl <;> omega

theorem exists_neighbours (f : BinaryFormat) (hd : 0 < d) (n : Nat) :
    ∃ r, f.units r * d ≤ n ∧ n < f.units (r + 1) * d := by
  obtain ⟨ht, hs⟩ := f.floor_parts n d
  generalize (n / d).log2 - f.fractionBits = s at ht hs
  have division := Nat.div_add_mod' n (d * 2 ^ s)
  have rest := Nat.mod_lt n (Nat.mul_pos hd (Nat.two_pow_pos s))
  generalize n / (d * 2 ^ s) = t at ht hs division
  have whole : t * (d * 2 ^ s) = t * 2 ^ s * d := by ring
  have step : 2 ^ s * d = d * 2 ^ s := Nat.mul_comm ..
  refine ⟨s * 2 ^ f.fractionBits + t, ?_, ?_⟩
  · rw [units_parts ht hs]
    omega
  · rw [units_succ, units_parts ht hs, doublings_parts ht hs, Nat.add_mul]
    omega

/-- A magnitude is not rounded. -/
theorem nearest_units (hd : 0 < d) (r : Nat) : f.nearest (f.units r * d) d = r := by
  have grow : f.units r * d < f.units (r + 1) * d :=
    Nat.mul_lt_mul_of_pos_right (f.units_strictMono (Nat.lt_succ_self r)) hd
  have middle : 2 * (f.units r * d) < (f.units r + f.units (r + 1)) * d := by
    rw [Nat.add_mul]
    omega
  rw [nearest_eq hd (Nat.le_refl _) grow, if_pos (.inl middle)]

@[simp] theorem nearest_zero (hd : 0 < d) : f.nearest 0 d = 0 := by
  simpa using nearest_units hd 0

theorem nearest_of_small (h : 2 * n < d) : f.nearest n d = 0 := by
  have one : f.units (0 + 1) = 1 := by
    simp [units_succ, doublings]
  have middle : 2 * n < (f.units 0 + f.units (0 + 1)) * d := by
    rw [one, units_zero]
    omega
  rw [nearest_eq (r := 0) (by omega) (by simp) (by rw [one]; omega), if_pos (.inl middle)]

/-- Ranks grow with the fractions that are rounded. -/
theorem nearest_mono (hd : 0 < d) (he : 0 < e) (h : n * e ≤ m * d) :
    f.nearest n d ≤ f.nearest m e := by
  obtain ⟨r, lr, ur⟩ := f.exists_neighbours hd n
  obtain ⟨s, ls, us⟩ := f.exists_neighbours he m
  have order : r ≤ s := by
    refine Nat.lt_add_one_iff.mp (f.units_strictMono.lt_iff_lt.mp ?_)
    refine Nat.lt_of_mul_lt_mul_right (a := d * e) ?_
    calc f.units r * (d * e) = f.units r * d * e := by ring
      _ ≤ n * e := Nat.mul_le_mul_right e lr
      _ ≤ m * d := h
      _ < f.units (s + 1) * e * d := Nat.mul_lt_mul_of_pos_right us hd
      _ = f.units (s + 1) * (d * e) := by ring
  rw [nearest_eq hd lr ur, nearest_eq he ls us]
  rcases Nat.lt_or_eq_of_le order with order | rfl
  · split <;> split <;> omega
  -- Between the same neighbours, what is rounded up stays at or above the middle.
  split
  · split <;> omega
  · next up =>
      rw [if_neg]
      rw [not_or, not_and] at up ⊢
      obtain ⟨above, tie⟩ := up
      generalize f.units r + f.units (r + 1) = middle at above tie
      have scaled : middle * e * d ≤ 2 * m * d :=
        calc middle * e * d = middle * d * e := by ring
          _ ≤ 2 * n * e := Nat.mul_le_mul_right e (Nat.not_lt.mp above)
          _ = 2 * (n * e) := by ring
          _ ≤ 2 * (m * d) := Nat.mul_le_mul_left 2 h
          _ = 2 * m * d := by ring
      refine ⟨Nat.not_lt.mpr (Nat.le_of_mul_le_mul_right scaled hd), fun same => tie ?_⟩
      refine Nat.le_antisymm ?_ (Nat.not_lt.mp above)
      refine Nat.le_of_mul_le_mul_right (c := e) ?_ he
      calc 2 * n * e = 2 * (n * e) := by ring
        _ ≤ 2 * (m * d) := Nat.mul_le_mul_left 2 h
        _ = 2 * m * d := by ring
        _ = middle * d * e := by rw [same]; ring

theorem le_nearest (hd : 0 < d) (h : f.units r * d ≤ n) : r ≤ f.nearest n d := by
  rw [← nearest_units (f := f) hd r]
  exact nearest_mono hd hd (Nat.mul_le_mul_right d h)

theorem nearest_le (hd : 0 < d) (h : n ≤ f.units r * d) : f.nearest n d ≤ r := by
  rw [← nearest_units (f := f) hd r]
  exact nearest_mono hd hd (Nat.mul_le_mul_right d h)

/-- A value that is too large for the format has no finite rank. -/
theorem top_le_nearest (h : 2 ^ (2 ^ f.exponentBits - 2 + f.fractionBits) ≤ n) :
    f.top ≤ f.nearest n 1 := by
  by_cases two : 2 ≤ 2 ^ f.exponentBits
  · rw [← f.units_top two] at h
    exact le_nearest Nat.one_pos (by omega)
  · have none : f.top = 0 := by
      have := Nat.two_pow_pos f.exponentBits
      rw [top, Nat.pow_eq, show 2 ^ f.exponentBits - 1 = 0 by omega, Nat.zero_mul]
    exact none ▸ Nat.zero_le _

/-! ### The fractions of one rank -/

/-- A fraction is not nearer to the neighbours of a rank than to the rank. -/
def Around (f : BinaryFormat) (n d r : Nat) : Prop :=
  (f.units (r - 1) + f.units r) * d ≤ 2 * n ∧ 2 * n ≤ (f.units r + f.units (r + 1)) * d

/-- A fraction is strictly nearer to a rank than to its neighbours. -/
def Inside (f : BinaryFormat) (n d r : Nat) : Prop :=
  (f.units (r - 1) + f.units r) * d < 2 * n ∧ 2 * n < (f.units r + f.units (r + 1)) * d

theorem around_nearest (hd : 0 < d) (n : Nat) : f.Around n d (f.nearest n d) := by
  obtain ⟨r, lower, upper⟩ := f.exists_neighbours hd n
  have before : f.units (r - 1) ≤ f.units r := f.units_strictMono.monotone (Nat.sub_le r 1)
  have after : f.units (r + 1) < f.units (r + 1 + 1) := f.units_strictMono (Nat.lt_succ_self _)
  have before := Nat.mul_le_mul_right d before
  have after := Nat.mul_lt_mul_of_pos_right after hd
  rw [nearest_eq hd lower upper]
  split
  · next h => exact ⟨by rw [Nat.add_mul]; omega, by omega⟩
  · next h =>
      rw [not_or] at h
      refine ⟨?_, by rw [Nat.add_mul]; omega⟩
      rw [Nat.add_sub_cancel]
      omega

/-- A fraction whose rank is odd is not half way to a neighbour. -/
theorem inside_nearest (hd : 0 < d) (odd : f.nearest n d % 2 = 1) :
    f.Inside n d (f.nearest n d) := by
  obtain ⟨r, lower, upper⟩ := f.exists_neighbours hd n
  have after : f.units (r + 1) < f.units (r + 1 + 1) := f.units_strictMono (Nat.lt_succ_self _)
  have after := Nat.mul_lt_mul_of_pos_right after hd
  rw [nearest_eq hd lower upper] at odd ⊢
  split at odd
  · next h =>
      -- An odd rank has one before it.
      have before : f.units (r - 1) < f.units r := f.units_strictMono (by omega)
      have before := Nat.mul_lt_mul_of_pos_right before hd
      rw [if_pos h]
      exact ⟨by rw [Nat.add_mul]; omega, by omega⟩
  · next h =>
      rw [if_neg h]
      rw [not_or] at h
      refine ⟨?_, by rw [Nat.add_mul]; omega⟩
      rw [Nat.add_sub_cancel]
      omega

/-- The fractions strictly nearer to a rank have that rank, and both ends of their interval have it
if it is even. -/
theorem nearest_of_around (hd : 0 < d) (hr : 0 < r) (around : f.Around n d r)
    (odd : r % 2 = 1 → f.Inside n d r) : f.nearest n d = r := by
  have before : f.units (r - 1) < f.units r := f.units_strictMono (by omega)
  have after : f.units r < f.units (r + 1) := f.units_strictMono (Nat.lt_succ_self r)
  have before := Nat.mul_lt_mul_of_pos_right before hd
  have after := Nat.mul_lt_mul_of_pos_right after hd
  obtain ⟨lower, upper⟩ := around
  rw [Nat.add_mul] at lower upper
  have odd : r % 2 = 1 → f.units (r - 1) * d + f.units r * d < 2 * n ∧
      2 * n < f.units r * d + f.units (r + 1) * d := by
    simpa only [Inside, Nat.add_mul] using odd
  by_cases h : f.units r * d ≤ n
  · rw [nearest_eq hd h (by omega), if_pos]
    rw [Nat.add_mul]
    omega
  · have previous : r - 1 + 1 = r := by omega
    rw [nearest_eq hd (r := r - 1) (by omega) (by rw [previous]; omega), previous, if_neg]
    rw [Nat.add_mul]
    omega

end BinaryFormat

namespace Binary

variable {f : BinaryFormat} {negative : Bool} {rank : Nat}

theorem ofRank_of_lt_top (h : rank < f.top) :
    (ofRank negative rank : Binary f) = .finite ⟨negative, rank, h⟩ :=
  dif_pos h

theorem ofRank_of_top_le (h : f.top ≤ rank) :
    (ofRank negative rank : Binary f) = .infinity negative :=
  dif_neg (Nat.not_lt.mpr h)

end Binary

end Winnow
