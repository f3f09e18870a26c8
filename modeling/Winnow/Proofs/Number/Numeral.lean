import Mathlib.Data.List.TakeWhile
import Mathlib.Tactic.Common
import Winnow.Number.Layout
import Winnow.Proofs.Number.Rounding

/-!
Numerals are read back, whatever follows that does not go on with them, and numbers written in full
are numerals. The numeral of a decimal may have a greater coefficient in place of an exponent, but
it rounds to the same number of every format.
-/

namespace Winnow

namespace Numeral

/-- A numeral with digits before the point, with or without a fraction, and without an exponent. -/
structure IsPlain (n : Numeral) : Prop where
  whole_ne_nil : n.whole ≠ []
  whole : ∀ c ∈ n.whole, c.isDigit
  fraction : ∀ digits ∈ n.fraction, ∀ c ∈ digits, c.isDigit
  exponent : n.exponent = none

def unsignedText (n : Numeral) : List Char := n.whole ++ n.fraction.elim [] ('.' :: ·)

def plainText (n : Numeral) : List Char := (if n.negative then ['-'] else []) ++ n.unsignedText

/-- The text of an exponent, always with a sign. -/
def exponentText : Option (Bool × List Char) → List Char
  | none => []
  | some (negative, digits) => 'e' :: (if negative then '-' else '+') :: digits

def text (n : Numeral) : List Char := n.plainText ++ exponentText n.exponent

/-- A numeral of digits, with some of them before the point and in the exponent. -/
structure IsDecimal (n : Numeral) : Prop where
  whole_ne_nil : n.whole ≠ []
  whole : ∀ c ∈ n.whole, c.isDigit
  fraction : ∀ digits ∈ n.fraction, ∀ c ∈ digits, c.isDigit
  exponent : ∀ e ∈ n.exponent, e.2 ≠ [] ∧ ∀ c ∈ e.2, c.isDigit

theorem IsPlain.isDecimal {n : Numeral} (h : n.IsPlain) : n.IsDecimal :=
  ⟨h.whole_ne_nil, h.whole, h.fraction, by simp [h.exponent]⟩

theorem IsDecimal.exists_head {n : Numeral} (h : n.IsDecimal) :
    ∃ c rest, n.text = c :: rest ∧ (c = '-' ∨ c.isDigit) := by
  obtain ⟨c, whole, hw⟩ := List.exists_cons_of_ne_nil h.whole_ne_nil
  have digit : c.isDigit := h.whole c (hw ▸ List.mem_cons_self)
  cases hn : n.negative with
  | true => exact ⟨'-', n.unsignedText ++ exponentText n.exponent, by simp [text, plainText, hn],
      .inl rfl⟩
  | false =>
      have plain : n.plainText = c :: (whole ++ n.fraction.elim [] ('.' :: ·)) := by
        simp [plainText, unsignedText, hn, hw]
      exact ⟨c, _, by rw [text, plain, List.cons_append], .inr digit⟩

theorem scan_minus (text : List Char) : scan ('-' :: text) = scanUnsigned true text := rfl

theorem scan_of_ne_minus {c : Char} (h : c ≠ '-') (text : List Char) :
    scan (c :: text) = scanUnsigned false (c :: text) := by
  rw [scan.eq_def]
  split
  · next he => exact absurd (List.cons.inj he).1 h
  · rfl

theorem ne_minus_of_isDigit {c : Char} (h : c.isDigit) : c ≠ '-' := by
  rintro rfl
  cases h

/-! ### The text of a numeral -/

theorem takeWhile_digits {digits rest : List Char} (h : ∀ c ∈ digits, c.isDigit)
    (stop : ∀ c ∈ rest.head?, c.isDigit = false) :
    (digits ++ rest).takeWhile Char.isDigit = digits ∧
      (digits ++ rest).dropWhile Char.isDigit = rest := by
  rw [List.takeWhile_append_of_pos h, List.dropWhile_append_of_pos h]
  cases rest with
  | nil => simp
  | cons c rest => simp [stop c rfl]

theorem scanExponent_exponentText {e : Option (Bool × List Char)}
    (he : ∀ x ∈ e, x.2 ≠ [] ∧ ∀ c ∈ x.2, c.isDigit) :
    scanExponent (exponentText e) = some (e, []) := by
  cases e with
  | none => rfl
  | some x =>
      obtain ⟨negative, digits⟩ := x
      obtain ⟨nonempty, hd⟩ := he _ rfl
      obtain ⟨c, more, rfl⟩ := List.exists_cons_of_ne_nil nonempty
      obtain ⟨take, drop⟩ := @takeWhile_digits (c :: more) [] hd (by simp)
      rw [List.append_nil] at take drop
      cases negative <;> simp only [exponentText, scanExponent, scanSign] <;> simp [take, drop]

theorem head?_exponentText (e : Option (Bool × List Char)) :
    ∀ c ∈ (exponentText e).head?, c.isDigit = false ∧ c ≠ '.' := by
  cases e with
  | none => simp [exponentText]
  | some x =>
      rintro _ ⟨⟩
      decide

theorem scanUnsigned_unsignedText {n : Numeral} (h : n.IsDecimal) :
    scanUnsigned n.negative (n.unsignedText ++ exponentText n.exponent) = some (n, []) := by
  obtain ⟨negative, whole, fraction, exponent⟩ := n
  have tail := head?_exponentText exponent
  have read := scanExponent_exponentText h.exponent
  simp only [unsignedText] at read ⊢
  generalize exponentText exponent = more at tail read
  cases fraction with
  | none =>
      obtain ⟨take, drop⟩ := takeWhile_digits h.whole fun c hc => (tail c hc).1
      have point : ∀ others, more ≠ '.' :: others := by
        rintro others rfl
        exact (tail '.' rfl).2 rfl
      simp only at take drop
      simp [scanUnsigned, scanFraction, take, drop, read]
  | some digits =>
      obtain ⟨take, drop⟩ := takeWhile_digits (h.fraction digits rfl) fun c hc => (tail c hc).1
      have point : ∀ c ∈ ('.' :: (digits ++ more)).head?, c.isDigit = false := by simp
      obtain ⟨take', drop'⟩ := takeWhile_digits h.whole point
      simp only at take' drop'
      simp [scanUnsigned, scanFraction, take, drop, take', drop', read]

theorem scan_text {n : Numeral} (h : n.IsDecimal) : scan n.text = some (n, []) := by
  have unsigned := scanUnsigned_unsignedText h
  cases hn : n.negative with
  | true =>
      rw [hn] at unsigned
      simpa [text, plainText, hn, scan_minus] using unsigned
  | false =>
      rw [hn] at unsigned
      obtain ⟨c, whole, hw⟩ := List.exists_cons_of_ne_nil h.whole_ne_nil
      have hc : c ≠ '-' := ne_minus_of_isDigit (h.whole c (hw ▸ List.mem_cons_self))
      have start : n.unsignedText ++ exponentText n.exponent =
          c :: (whole ++ (n.fraction.elim [] ('.' :: ·) ++ exponentText n.exponent)) := by
        simp [unsignedText, hw]
      have same : n.text = n.unsignedText ++ exponentText n.exponent := by
        simp [text, plainText, hn]
      rw [same, start, scan_of_ne_minus hc, ← start, unsigned]

/-! ### Texts that go on behind a numeral -/

/-- What follows does not go on with a numeral. -/
def Stops (rest : List Char) : Prop :=
  ∀ c ∈ rest.head?, c.isDigit = false ∧ c ≠ '.' ∧ c ≠ 'e' ∧ c ≠ 'E'

theorem Stops.nil : Stops [] := by simp [Stops]

variable {text rest : List Char}

/-- What stops numerals takes no part in the digits before it. -/
theorem digits_append (stop : Stops rest) (text : List Char) :
    (text ++ rest).takeWhile Char.isDigit = text.takeWhile Char.isDigit ∧
      (text ++ rest).dropWhile Char.isDigit = text.dropWhile Char.isDigit ++ rest := by
  induction text with
  | nil =>
      cases rest with
      | nil => simp
      | cons c rest => simp [(stop c rfl).1]
  | cons c text ih => cases digit : c.isDigit <;> simp [digit, ih]

theorem scanSign_append (h : text ≠ []) :
    scanSign (text ++ rest) = ((scanSign text).1, (scanSign text).2 ++ rest) := by
  obtain ⟨c, text, rfl⟩ := List.exists_cons_of_ne_nil h
  rw [List.cons_append, scanSign.eq_def, scanSign.eq_def (c :: text)]
  split <;> simp_all

theorem scanExponent_append {e : Option (Bool × List Char)} (stop : Stops rest)
    (h : scanExponent text = some (e, [])) : scanExponent (text ++ rest) = some (e, rest) := by
  cases text with
  | nil =>
      cases h
      cases rest with
      | nil => rfl
      | cons c rest =>
          obtain ⟨-, -, he, hE⟩ := stop c rfl
          simp [scanExponent, he, hE]
  | cons c text =>
      rw [scanExponent] at h
      rw [List.cons_append, scanExponent]
      split at h
      · next letter =>
          have filled : text ≠ [] := by
            rintro rfl
            cases h
          obtain ⟨taken, left⟩ := digits_append stop (scanSign text).2
          rw [if_pos letter, scanSign_append filled]
          dsimp only at h ⊢
          rw [taken, left]
          split at h
          · cases h
          · next digits found =>
              obtain ⟨sign, ends⟩ := Prod.mk.inj (Option.some.inj h)
              rw [ends, ← sign]
              rfl
      · cases h

theorem scanFraction_append (stop : Stops rest) (text : List Char) :
    scanFraction (text ++ rest) = ((scanFraction text).1, (scanFraction text).2 ++ rest) := by
  cases text with
  | nil =>
      cases rest with
      | nil => rfl
      | cons c rest => simp [scanFraction, (stop c rfl).2.1]
  | cons c text =>
      rw [List.cons_append, scanFraction.eq_def, scanFraction.eq_def (c :: text)]
      obtain ⟨taken, left⟩ := digits_append stop text
      split <;> simp_all

theorem scanUnsigned_append {n : Numeral} {negative : Bool} (stop : Stops rest)
    (h : scanUnsigned negative text = some (n, [])) :
    scanUnsigned negative (text ++ rest) = some (n, rest) := by
  obtain ⟨taken, left⟩ := digits_append stop text
  have fraction := scanFraction_append stop (text.dropWhile Char.isDigit)
  rw [scanUnsigned] at h ⊢
  rw [taken, left, fraction]
  generalize scanFraction (text.dropWhile Char.isDigit) = found at h
  obtain ⟨⟨exponent, behind⟩, read, same⟩ := Option.map_eq_some_iff.mp h
  obtain ⟨rfl, rfl⟩ := Prod.mk.inj same
  dsimp only
  rw [scanExponent_append stop read]
  rfl

/-- A numeral is read up to its end if the text that goes on behind it does not go on with it. -/
theorem scan_append {n : Numeral} (filled : text ≠ []) (stop : Stops rest)
    (h : scan text = some (n, [])) : scan (text ++ rest) = some (n, rest) := by
  obtain ⟨c, text, rfl⟩ := List.exists_cons_of_ne_nil filled
  by_cases hc : c = '-'
  · subst hc
    exact scanUnsigned_append stop h
  · rw [scan_of_ne_minus hc] at h
    rw [List.cons_append, scan_of_ne_minus hc]
    exact scanUnsigned_append stop h

theorem scan_text_append {n : Numeral} (h : n.IsDecimal) (stop : Stops rest) :
    scan (n.text ++ rest) = some (n, rest) := by
  obtain ⟨c, text, ht, -⟩ := h.exists_head
  exact scan_append (ht ▸ List.cons_ne_nil c text) stop (scan_text h)

/-- What a numeral with digits before the point is read from begins with a sign or a digit. -/
theorem exists_head_of_scan {n : Numeral} (h : scan text = some (n, rest))
    (filled : n.whole ≠ []) : ∃ c more, text = c :: more ∧ (c = '-' ∨ c.isDigit) := by
  cases text with
  | nil =>
      cases h
      exact absurd rfl filled
  | cons c text =>
      refine ⟨c, text, rfl, ?_⟩
      by_cases hc : c = '-'
      · exact .inl hc
      · rw [scan_of_ne_minus hc, scanUnsigned] at h
        obtain ⟨_, -, same⟩ := Option.map_eq_some_iff.mp h
        obtain ⟨rfl, -⟩ := Prod.mk.inj same
        cases digit : c.isDigit with
        | true => exact .inr rfl
        | false => exact absurd (by simp [digit]) filled

theorem ofText?_plainText {n : Numeral} (h : n.IsPlain) : ofText? n.plainText = some n := by
  have read := scan_text h.isDecimal
  simp only [text, h.exponent, exponentText, List.append_nil] at read
  have digits : n.hasDigits := by
    simp [hasDigits, h.whole_ne_nil]
  simp [ofText?, read, digits]

end Numeral

theorem digitsValue_eq (digits : List Char) : digitsValue digits = Nat.ofDigitChars 10 digits 0 :=
  rfl

namespace Decimal

def numeral (d : Decimal) : Numeral :=
  let digits := Nat.toDigits 10 d.coefficient
  let point := digits.length + d.exponent
  if d.coefficient = 0 then ⟨d.negative, ['0'], none, none⟩
  else if point ≤ 0 then ⟨d.negative, ['0'], some (Layout.zeros (-point).toNat ++ digits), none⟩
  else if digits.length ≤ point.toNat then
    ⟨d.negative, digits ++ Layout.zeros (point.toNat - digits.length), none, none⟩
  else ⟨d.negative, digits.take point.toNat, some (digits.drop point.toNat), none⟩

theorem isDigit_of_mem_zeros {n : Nat} {c : Char} (h : c ∈ Layout.zeros n) : c.isDigit := by
  rw [List.eq_of_mem_replicate h]
  rfl

theorem isDigit_of_mem_digits {n : Nat} {c : Char} (h : c ∈ Nat.toDigits 10 n) : c.isDigit :=
  Nat.isDigit_of_mem_toDigits (by decide) (by decide) h

theorem numeral_isPlain (d : Decimal) : d.numeral.IsPlain := by
  have digits : ∀ c ∈ Nat.toDigits 10 d.coefficient, c.isDigit := fun c => isDigit_of_mem_digits
  have zeros (n : Nat) : ∀ c ∈ Layout.zeros n, c.isDigit := fun c => isDigit_of_mem_zeros
  unfold numeral
  dsimp only
  split
  · exact ⟨by simp, by simp, by simp, rfl⟩
  split
  · refine ⟨by simp, by simp, ?_, rfl⟩
    rintro _ ⟨⟩ c hc
    rw [List.mem_append] at hc
    exact hc.elim (zeros _ c) (digits c)
  split
  · refine ⟨by simp, fun c hc => ?_, by simp, rfl⟩
    rw [List.mem_append] at hc
    exact hc.elim (digits c) (zeros _ c)
  · next hz hp hl =>
      refine ⟨?_, fun c hc => digits c (List.mem_of_mem_take hc), ?_, rfl⟩
      · rw [← List.length_pos_iff, List.length_take]
        omega
      · rintro _ ⟨⟩ c hc
        exact digits c (List.mem_of_mem_drop hc)

theorem numeral_negative (d : Decimal) : d.numeral.negative = d.negative := by
  unfold numeral
  dsimp only
  split
  · rfl
  split
  · rfl
  split <;> rfl

theorem write_plain (d : Decimal) : Layout.plain.write d = d.numeral.plainText := by
  unfold Layout.write
  rw [Numeral.plainText, numeral_negative]
  by_cases hz : d.coefficient = 0
  · simp [numeral, hz, Numeral.unsignedText, Layout.plain]
  simp only [numeral, hz, ↓reduceIte, Layout.positionally, Layout.plain, Option.all_none]
  congr 1
  by_cases hp : (Nat.toDigits 10 d.coefficient).length + d.exponent ≤ 0
  · simp [hp, Numeral.unsignedText]
  simp only [hp, ↓reduceIte]
  split <;> simp [Numeral.unsignedText]

/-- A decimal with a natural exponent rounds like the natural number that it is. -/
theorem toBinary_of_nonneg (d : Decimal) (f : BinaryFormat) (h : 0 ≤ d.exponent) :
    d.toBinary f = .ofRatio d.negative (d.coefficient * 10 ^ d.exponent.toNat) 1 := by
  unfold toBinary
  split
  · next hc =>
      rw [hc, Binary.ofRatio, Nat.zero_mul, Nat.zero_mul, BinaryFormat.nearest_zero Nat.one_pos]
  split
  · next hc he =>
      -- The power of ten is not even computed where it is above all finite numbers.
      rw [Binary.ofRatio, Binary.ofRank_of_top_le (BinaryFormat.top_le_nearest ?_)]
      have bits : 2 ^ (f.exponentBits - 1) ≤ d.exponent.toNat := by
        rw [Nat.pow_eq] at he
        omega
      have enough : 2 ^ f.exponentBits - 2 + f.fractionBits ≤ d.exponent.toNat + f.depth := by
        have : 2 ^ f.exponentBits ≤ 2 * 2 ^ (f.exponentBits - 1) := by
          rw [← Nat.pow_succ']
          exact Nat.pow_le_pow_right (by omega) (by omega)
        simp only [BinaryFormat.depth, Nat.pow_eq]
        omega
      calc 2 ^ (2 ^ f.exponentBits - 2 + f.fractionBits) ≤ 2 ^ (d.exponent.toNat + f.depth) :=
            Nat.pow_le_pow_right (by omega) enough
        _ = 1 * 2 ^ d.exponent.toNat * 2 ^ f.depth := by rw [Nat.pow_add, Nat.one_mul]
        _ ≤ d.coefficient * 10 ^ d.exponent.toNat * 2 ^ f.depth :=
            Nat.mul_le_mul_right _ (Nat.mul_le_mul (Nat.pos_of_ne_zero hc)
              (Nat.pow_le_pow_left (by omega) _))
  · rfl

/-- A decimal far below the least positive magnitude rounds to zero. -/
theorem nearest_of_tiny {coefficient places : Nat} {f : BinaryFormat}
    (h : coefficient.log2 + f.depth + 3 ≤ 3 * places) :
    f.nearest (coefficient * 2 ^ f.depth) (10 ^ places) = 0 := by
  refine BinaryFormat.nearest_of_small ?_
  calc 2 * (coefficient * 2 ^ f.depth) < 2 * (2 ^ (coefficient.log2 + 1) * 2 ^ f.depth) :=
        Nat.mul_lt_mul_of_pos_left
          (Nat.mul_lt_mul_of_pos_right Nat.lt_log2_self (Nat.two_pow_pos _)) Nat.two_pos
    _ = 2 ^ (coefficient.log2 + f.depth + 2) := by ring
    _ ≤ 2 ^ (3 * places) := Nat.pow_le_pow_right (by omega) (by omega)
    _ = 8 ^ places := by rw [Nat.pow_mul]
    _ ≤ 10 ^ places := Nat.pow_le_pow_left (by omega) _

def numerator (d : Decimal) : Nat := d.coefficient * 10 ^ d.exponent.toNat

def denominator (d : Decimal) : Nat := 10 ^ (-d.exponent).toNat

theorem denominator_pos (d : Decimal) : 0 < d.denominator := Nat.pow_pos (by omega)

/-- A decimal rounds like the fraction that it is. -/
theorem toBinary_eq (d : Decimal) (f : BinaryFormat) :
    d.toBinary f = .ofRank d.negative (f.nearest (d.numerator * 2 ^ f.depth) d.denominator) := by
  rw [numerator, denominator]
  by_cases h : 0 ≤ d.exponent
  · have whole : (-d.exponent).toNat = 0 := by omega
    rw [toBinary_of_nonneg d f h, whole]
    rfl
  have places : d.exponent.natAbs = (-d.exponent).toNat := by omega
  have whole : d.exponent.toNat = 0 := by omega
  have bounded : ¬ (Nat.pow 2 (f.exponentBits - 1) : Int) ≤ d.exponent := by omega
  rw [whole, Nat.pow_zero, Nat.mul_one, toBinary, if_neg bounded, if_neg h, places]
  dsimp only
  split
  · next hc => rw [hc, Nat.zero_mul, BinaryFormat.nearest_zero (Nat.pow_pos (by omega))]
  split
  · next tiny => rw [nearest_of_tiny tiny]
  · rfl

theorem value_numeral_of_zero {d : Decimal} (h : d.coefficient = 0) :
    d.numeral.value = ⟨d.negative, 0, 0⟩ := by
  rw [numeral, if_pos h]
  rfl

theorem digitsValue_digits (n : Nat) : digitsValue (Nat.toDigits 10 n) = n :=
  Nat.ofDigitChars_ten_toDigits

theorem digitsValue_append_zeros (digits : List Char) (n : Nat) :
    digitsValue (digits ++ Layout.zeros n) = digitsValue digits * 10 ^ n := by
  simp only [digitsValue_eq, Layout.zeros, Nat.ofDigitChars_append,
    Nat.ofDigitChars_replicate_zero, Nat.mul_comm]

theorem digitsValue_zeros_append (digits : List Char) (n : Nat) :
    digitsValue (Layout.zeros n ++ digits) = digitsValue digits := by
  simp only [digitsValue_eq, Layout.zeros, Nat.ofDigitChars_append,
    Nat.ofDigitChars_replicate_zero, Nat.mul_zero]

/-- The numeral of a decimal is the decimal itself, or a natural number without an exponent. -/
theorem value_numeral {d : Decimal} (h : d.coefficient ≠ 0) :
    d.numeral.value =
      if 0 ≤ d.exponent then ⟨d.negative, d.coefficient * 10 ^ d.exponent.toNat, 0⟩ else d := by
  have length : 0 < (Nat.toDigits 10 d.coefficient).length := Nat.length_toDigits_pos
  unfold numeral
  dsimp only
  rw [if_neg h]
  split
  · next hp =>
      rw [if_neg (by omega)]
      simp only [Numeral.value, Option.getD_some, List.length_append, Layout.zeros,
        List.length_replicate]
      rw [show ['0'] = Layout.zeros 1 from rfl, digitsValue_zeros_append,
        ← Layout.zeros, digitsValue_zeros_append, digitsValue_digits]
      congr 1
      omega
  split
  · next hp hl =>
      have he : 0 ≤ d.exponent := by omega
      have places : (((Nat.toDigits 10 d.coefficient).length + d.exponent).toNat -
          (Nat.toDigits 10 d.coefficient).length) = d.exponent.toNat := by omega
      rw [if_pos he, places]
      simp [Numeral.value, digitsValue_append_zeros, digitsValue_digits]
  · next hp hl =>
      rw [if_neg (by omega)]
      simp only [Numeral.value, Option.getD_some, List.take_append_drop, digitsValue_digits,
        List.length_drop]
      congr 1
      omega

/-- The numeral that a decimal is written as rounds to the number that the decimal rounds to. -/
theorem toBinary_numeral (d : Decimal) (f : BinaryFormat) :
    d.numeral.value.toBinary f = d.toBinary f := by
  by_cases h : d.coefficient = 0
  · rw [value_numeral_of_zero h]
    simp [toBinary, h]
  rw [value_numeral h]
  split
  · next he =>
      rw [toBinary_of_nonneg _ _ (Int.le_refl 0), toBinary_of_nonneg d f he]
      simp
  · rfl

end Decimal

/-! ### Whole numbers -/

namespace Numeral

def ofInt (n : Int) : Numeral := ⟨n < 0, Nat.toDigits 10 n.natAbs, none, none⟩

theorem isPlain_ofInt (n : Int) : (ofInt n).IsPlain where
  whole_ne_nil := Nat.toDigits_ne_nil
  whole c := Decimal.isDigit_of_mem_digits
  fraction := by simp [ofInt]
  exponent := rfl

theorem toList_toString (n : Int) : (toString n).toList = (ofInt n).text := by
  rw [Int.toString_eq_repr]
  cases n with
  | ofNat n =>
      have sign : ¬ Int.ofNat n < 0 := by simp
      simp only [ofInt, text, plainText, unsignedText, exponentText, sign, decide_false]
      simp [Int.repr]
  | negSucc n =>
      have sign : Int.negSucc n < 0 := Int.negSucc_lt_zero n
      simp only [ofInt, text, plainText, unsignedText, exponentText, sign, decide_true]
      simp [Int.repr, String.toList_append, Nat.toList_repr]

end Numeral

theorem Decimal.numeral_integer (n : Int) :
    (⟨n < 0, n.natAbs, 0⟩ : Decimal).numeral = Numeral.ofInt n := by
  rw [numeral, Numeral.ofInt]
  split
  · next hz =>
      dsimp only at hz
      rw [hz]
      rfl
  · have length : 0 < (Nat.toDigits 10 n.natAbs).length := Nat.length_toDigits_pos
    simp [Layout.zeros, Nat.ne_of_gt length]

end Winnow
