import Winnow.Proofs.Number.Shortest

/-!
Numbers as documents write them are numerals with the same nearest number. Such a numeral has a
point or an exponent, so it is never taken for a whole number.
-/

namespace Winnow

/-! ### Numerals with a point -/

namespace Numeral

/-- The numeral with a point: a whole number gets a zero behind it. -/
def pointed (n : Numeral) : Numeral := { n with fraction := some (n.fraction.getD ['0']) }

theorem IsPlain.pointed {n : Numeral} (h : n.IsPlain) : n.pointed.IsDecimal where
  whole_ne_nil := h.whole_ne_nil
  whole := h.whole
  fraction := by
    rintro _ ⟨⟩
    cases hf : n.fraction with
    | none => simp
    | some digits => exact h.fraction digits hf
  exponent := by simp [Numeral.pointed, h.exponent]

end Numeral

namespace Decimal

/-- A decimal with zeros at the end of its coefficient rounds like the one without them. -/
theorem toBinary_shift (negative : Bool) (coefficient k : Nat) (e : Int) (f : BinaryFormat) :
    (⟨negative, coefficient * 10 ^ k, e⟩ : Decimal).toBinary f =
      (⟨negative, coefficient, e + k⟩ : Decimal).toBinary f := by
  have powers : k + (e.toNat + (-(e + k)).toNat) = (e + k).toNat + (-e).toNat := by omega
  have same : coefficient * 10 ^ k * 10 ^ e.toNat * 10 ^ (-(e + k)).toNat =
      coefficient * 10 ^ (e + k).toNat * 10 ^ (-e).toNat := by
    rw [Nat.mul_assoc _ (10 ^ (e + k).toNat), ← Nat.pow_add, ← powers]
    simp only [Nat.pow_add, Nat.mul_assoc]
  have scaled : coefficient * 10 ^ k * 10 ^ e.toNat * 2 ^ f.depth * 10 ^ (-(e + k)).toNat =
      coefficient * 10 ^ (e + k).toNat * 2 ^ f.depth * 10 ^ (-e).toNat := by
    rw [Nat.mul_right_comm, same, Nat.mul_right_comm]
  have positive (n : Nat) : 0 < 10 ^ n := Nat.pow_pos (by decide)
  rw [toBinary_eq, toBinary_eq]
  congr 1
  exact Nat.le_antisymm (BinaryFormat.nearest_mono (positive _) (positive _) scaled.le)
    (BinaryFormat.nearest_mono (positive _) (positive _) scaled.ge)

theorem toBinary_pointed {n : Numeral} (h : n.exponent = none) (f : BinaryFormat) :
    n.pointed.value.toBinary f = n.value.toBinary f := by
  obtain ⟨negative, whole, fraction, exponent⟩ := n
  obtain rfl : exponent = none := h
  cases fraction with
  | some digits => rfl
  | none =>
      have shifted := toBinary_shift negative (digitsValue whole) 1 (-1) f
      rw [← digitsValue_append_zeros] at shifted
      simpa [Numeral.value, Numeral.pointed, Layout.zeros] using shifted

def scientificNumeral (d : Decimal) : Numeral :=
  let digits := Nat.toDigits 10 d.coefficient
  let power := digits.length + d.exponent - 1
  ⟨d.negative, digits.take 1, if digits.drop 1 = [] then none else some (digits.drop 1),
    some (power < 0, Nat.toDigits 10 power.natAbs)⟩

theorem scientificNumeral_isDecimal (d : Decimal) : d.scientificNumeral.IsDecimal where
  whole_ne_nil := by
    have : 0 < (Nat.toDigits 10 d.coefficient).length := Nat.length_toDigits_pos
    rw [← List.length_pos_iff, scientificNumeral, List.length_take]
    omega
  whole c hc := isDigit_of_mem_digits (List.mem_of_mem_take hc)
  fraction digits hf c hc := by
    rw [scientificNumeral] at hf
    dsimp only at hf
    split at hf
    · cases hf
    · cases hf
      exact isDigit_of_mem_digits (List.mem_of_mem_drop hc)
  exponent := by
    rintro _ ⟨⟩
    exact ⟨Nat.toDigits_ne_nil, fun c => isDigit_of_mem_digits⟩

/-- The numeral with an exponent is the decimal itself. -/
theorem value_scientificNumeral (d : Decimal) : d.scientificNumeral.value = d := by
  have : 0 < (Nat.toDigits 10 d.coefficient).length := Nat.length_toDigits_pos
  have fraction : d.scientificNumeral.fraction.getD [] =
      (Nat.toDigits 10 d.coefficient).drop 1 := by
    rw [scientificNumeral]
    dsimp only
    split
    · next empty => exact empty.symm
    · rfl
  rw [Numeral.value, fraction]
  simp only [scientificNumeral, List.take_append_drop, digitsValue_digits, List.length_drop]
  obtain ⟨negative, coefficient, exponent⟩ := d
  dsimp only at this ⊢
  congr 1
  split
  · next h => cases h
  · next h =>
      simp only [Option.some.injEq, Prod.mk.injEq, decide_eq_true_eq] at h
      obtain ⟨sign, rfl⟩ := h
      rw [digitsValue_digits]
      omega
  · next h =>
      simp only [Option.some.injEq, Prod.mk.injEq, decide_eq_false_iff_not] at h
      obtain ⟨sign, rfl⟩ := h
      rw [digitsValue_digits]
      omega

def jsonNumeral (d : Decimal) : Numeral :=
  let point := (Nat.toDigits 10 d.coefficient).length + d.exponent
  if d.coefficient = 0 ∨ -4 ≤ point ∧ point ≤ 16 then d.numeral.pointed else d.scientificNumeral

theorem jsonNumeral_isDecimal (d : Decimal) : d.jsonNumeral.IsDecimal := by
  rw [jsonNumeral]
  split
  · exact d.numeral_isPlain.pointed
  · exact d.scientificNumeral_isDecimal

theorem toBinary_jsonNumeral (d : Decimal) (f : BinaryFormat) :
    d.jsonNumeral.value.toBinary f = d.toBinary f := by
  rw [jsonNumeral]
  split
  · rw [toBinary_pointed d.numeral_isPlain.exponent, toBinary_numeral]
  · rw [value_scientificNumeral]

theorem positionally_json {d : Decimal} (h : d.coefficient ≠ 0) :
    Layout.json.positionally (Nat.toDigits 10 d.coefficient)
        ((Nat.toDigits 10 d.coefficient).length + d.exponent) =
      d.numeral.pointed.unsignedText := by
  rw [numeral, Layout.positionally]
  simp only [h, if_false, Layout.json]
  split
  · simp [Numeral.unsignedText, Numeral.pointed]
  split <;> simp [Numeral.unsignedText, Numeral.pointed]

theorem scientifically_json (d : Decimal) :
    Layout.json.scientifically (Nat.toDigits 10 d.coefficient)
        ((Nat.toDigits 10 d.coefficient).length + d.exponent) =
      d.scientificNumeral.unsignedText ++ Numeral.exponentText d.scientificNumeral.exponent := by
  rw [scientificNumeral, Layout.scientifically]
  simp only [Numeral.unsignedText, Numeral.exponentText, Layout.json]
  by_cases sign : ((Nat.toDigits 10 d.coefficient).length : Int) + d.exponent - 1 < 0 <;>
    cases List.drop 1 (Nat.toDigits 10 d.coefficient) <;> simp only [sign] <;> simp

theorem write_json (d : Decimal) : Layout.json.write d = d.jsonNumeral.text := by
  have negative : d.jsonNumeral.negative = d.negative := by
    rw [jsonNumeral]
    split
    · exact d.numeral_negative
    · rfl
  rw [Numeral.text, Numeral.plainText, negative, List.append_assoc, Layout.write]
  by_cases hz : d.coefficient = 0
  · simp [jsonNumeral, numeral, hz, Numeral.unsignedText, Numeral.pointed, Layout.json,
      Numeral.exponentText]
  have positional : Layout.json.positional = some (-4, 16) := rfl
  simp only [hz, if_false, positional, Option.all_some, jsonNumeral, false_or, Bool.and_eq_true,
    decide_eq_true_eq]
  congr 1
  split
  · rw [positionally_json hz]
    simp [Numeral.pointed, d.numeral_isPlain.exponent, Numeral.exponentText]
  · exact scientifically_json d

end Decimal

end Winnow
