import Winnow.Number.Shortest
import Winnow.Proofs.Number.Numeral

/-!
The shortest decimal of a number reads back as the number. It is searched for in the interval of
what rounds to the number, and the search ends with the number itself if nothing shorter is found.
-/

namespace Winnow

namespace Interval

variable {i : Interval} {x grid count : Nat}

theorem contains_iff : i.contains x ↔ (i.lower ≤ x ∧ x ≤ i.upper) ∧
    (i.closed = false → i.lower < x ∧ x < i.upper) := by
  unfold contains
  cases i.closed with
  | true => simp
  | false =>
      simp only [Bool.false_eq_true, if_false, Bool.and_eq_true, decide_eq_true_eq,
        true_imp_iff]
      omega

theorem contains_of_nearestOn? (h : i.nearestOn? grid = some count) :
    i.contains (count * grid) := by
  unfold nearestOn? at h
  dsimp only at h
  split at h
  · next lower upper =>
      rw [Option.some.injEq] at h
      subst h
      split
      · exact lower
      · exact upper
  · next lower _ =>
      cases h
      exact lower
  · next _ upper =>
      cases h
      exact upper
  · cases h

/-- The search never leaves the interval. -/
theorem contains_coarsest (h : i.contains i.value) (places : Nat) :
    i.contains ((i.coarsest places).1 * 10 ^ (i.coarsest places).2) := by
  induction places with
  | zero => simpa [coarsest] using h
  | succ places ih =>
      rw [coarsest]
      split
      · next found => exact contains_of_nearestOn? found
      · exact ih

end Interval

namespace BinaryFormat

variable {f : BinaryFormat} {r n d x : Nat}

theorem contains_value (f : BinaryFormat) (hr : 0 < r) :
    (f.interval r).contains (f.interval r).value := by
  have before : f.units (r - 1) < f.units r := f.units_strictMono (by omega)
  have after : f.units r < f.units (r + 1) := f.units_strictMono (Nat.lt_succ_self r)
  have scale : 0 < Nat.pow 5 (f.depth + 1) := Nat.pow_pos (by omega)
  have lower : (f.interval r).lower < (f.interval r).value :=
    Nat.mul_lt_mul_of_pos_right (by omega) scale
  have upper : (f.interval r).value < (f.interval r).upper :=
    Nat.mul_lt_mul_of_pos_right (by omega) scale
  exact Interval.contains_iff.mpr ⟨⟨lower.le, upper.le⟩, fun _ => ⟨lower, upper⟩⟩

/-- A point of the interval of a rank, taken as a fraction, is around the rank, and inside if the
ends do not belong to the interval. -/
theorem around_of_contains (h : (f.interval r).contains x) (hd : 0 < d)
    (same : n * 10 ^ (f.depth + 1) = x * 2 ^ f.depth * d) :
    f.Around n d r ∧ (r % 2 = 1 → f.Inside n d r) := by
  have scale : 0 < 5 ^ (f.depth + 1) * 2 ^ f.depth :=
    Nat.mul_pos (Nat.pow_pos (by omega)) (Nat.two_pow_pos _)
  have unit : 0 < 2 ^ f.depth * d := Nat.mul_pos (Nat.two_pow_pos _) hd
  have twice : 2 * n * (5 ^ (f.depth + 1) * 2 ^ f.depth) = x * (2 ^ f.depth * d) := by
    rw [← Nat.mul_assoc x, ← same, show 10 = 5 * 2 from rfl, Nat.mul_pow]
    ring
  have both (u : Nat) : u * d * (5 ^ (f.depth + 1) * 2 ^ f.depth) =
      u * 5 ^ (f.depth + 1) * (2 ^ f.depth * d) := by ring
  have above (u : Nat) : u * 5 ^ (f.depth + 1) ≤ x ↔ u * d ≤ 2 * n := by
    rw [← Nat.mul_le_mul_right_iff unit, ← twice, ← both, Nat.mul_le_mul_right_iff scale]
  have below (u : Nat) : x ≤ u * 5 ^ (f.depth + 1) ↔ 2 * n ≤ u * d := by
    rw [← Nat.mul_le_mul_right_iff unit, ← twice, ← both, Nat.mul_le_mul_right_iff scale]
  obtain ⟨⟨lower, upper⟩, ends⟩ := Interval.contains_iff.mp h
  refine ⟨⟨(above _).mp lower, (below _).mp upper⟩, fun odd => ?_⟩
  obtain ⟨lower, upper⟩ := ends (by simp [interval, odd])
  rw [← Nat.not_le] at lower upper
  exact ⟨Nat.not_le.mp (mt (below _).mpr lower), Nat.not_le.mp (mt (above _).mpr upper)⟩

/-- A decimal in the interval of a rank has that rank. -/
theorem nearest_of_contains {d : Decimal} {places : Nat} (hr : 0 < r)
    (exponent : d.exponent = places - (f.depth + 1 : Int))
    (h : (f.interval r).contains (d.coefficient * 10 ^ places)) :
    f.nearest (d.numerator * 2 ^ f.depth) d.denominator = r := by
  have powers : d.exponent.toNat + (f.depth + 1) = places + (-d.exponent).toNat := by omega
  have same : d.numerator * 2 ^ f.depth * 10 ^ (f.depth + 1) =
      d.coefficient * 10 ^ places * 2 ^ f.depth * d.denominator := by
    rw [Decimal.numerator, Decimal.denominator, Nat.mul_right_comm, Nat.mul_assoc d.coefficient,
      ← Nat.pow_add, powers, Nat.pow_add]
    ring
  obtain ⟨around, odd⟩ := around_of_contains h d.denominator_pos same
  exact nearest_of_around d.denominator_pos hr around odd

/-- The shortest decimal of a positive rank is in its interval. -/
theorem exists_shortest (hr : 0 < r) :
    ∃ count places : Nat, f.shortest r = (count, places - (f.depth + 1 : Int)) ∧
      (f.interval r).contains (count * 10 ^ places) := by
  rw [shortest, if_neg (by omega)]
  extract_lets i
  have inside := Interval.contains_coarsest (f.contains_value hr) (placesAbove i.upper)
  -- The search is not run: what it finds is any decimal inside.
  generalize i.coarsest (placesAbove i.upper) = best at inside ⊢
  obtain ⟨count, places⟩ := best
  exact ⟨count, places, rfl, inside⟩

end BinaryFormat

namespace Finite

variable {f : BinaryFormat}

/-- The fraction that the shortest decimal of a number is. -/
theorem nearest_toDecimal (x : Finite f) :
    f.nearest (x.toDecimal.numerator * 2 ^ f.depth) x.toDecimal.denominator = x.rank := by
  rcases Nat.eq_zero_or_pos x.rank with zero | pos
  · have nothing : x.toDecimal.numerator = 0 := by
      rw [Decimal.numerator, toDecimal, zero]
      exact Nat.zero_mul _
    rw [nothing, Nat.zero_mul, BinaryFormat.nearest_zero x.toDecimal.denominator_pos, zero]
  · obtain ⟨count, places, found, inside⟩ := BinaryFormat.exists_shortest pos
    have coefficient : x.toDecimal.coefficient = count := congrArg Prod.fst found
    rw [← coefficient] at inside
    exact BinaryFormat.nearest_of_contains pos (congrArg Prod.snd found) inside

/-- The shortest decimal reads back. -/
theorem toBinary_toDecimal (x : Finite f) : x.toDecimal.toBinary f = .finite x := by
  rw [Decimal.toBinary_eq, nearest_toDecimal, Binary.ofRank_of_lt_top x.rank.isLt]
  rfl

end Finite

end Winnow
