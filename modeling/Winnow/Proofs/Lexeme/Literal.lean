import Winnow.Lexeme.Literal

/-!
Literals of texts. Whatever a text holds, the literal that is written for it is read back as the
literal of that text: each character is read from its escape.
-/

namespace Winnow.Lexeme

open Text

variable {s : Charset} {e next : Escape} {c d : Char} {value source rest : List Char}

/-- A character within a quoted text that completes no character of the value. -/
theorem cutQuoted_open (more : c ≠ '"') (step : e.step? s c = some (next, [])) :
    cutQuoted s e value source (c :: rest) = cutQuoted s next value (c :: source) rest := by
  simp [cutQuoted, more, step]

/-- A character within a quoted text that completes one of the value. -/
theorem cutQuoted_close (more : c ≠ '"' ∨ e.mayEnd = false)
    (step : e.step? s c = some (next, [d])) :
    cutQuoted s e value source (c :: rest) = cutQuoted s next (d :: value) (c :: source) rest := by
  have quoted : ¬ (c = '"' && e.mayEnd) := by
    rcases more with h | h <;> simp [h]
  rw [cutQuoted, if_neg quoted, step]
  rfl

/-! ### Code points -/

theorem digitChar_cases : ∀ n < 16, n.digitChar ≠ '"' ∧ n.digitChar ≠ '_' ∧ n.digitChar ≠ '\x7d' ∧
    hexValue? n.digitChar = some n := by
  decide

theorem cutQuoted_digit {n digit count : Nat} (h : digit < 16) (few : count < 6) :
    cutQuoted s (.code n count) value source (digit.digitChar :: rest) =
      cutQuoted s (.code (16 * n + digit) (count + 1)) value (digit.digitChar :: source) rest := by
  obtain ⟨quote, joint, brace, hex⟩ := digitChar_cases digit h
  exact cutQuoted_open quote (by simp [Escape.step?, joint, brace, hex, few])

theorem cutQuoted_digits {n : Nat} (short : (Nat.toDigits 16 n).length ≤ 6) :
    cutQuoted s (.code 0 0) value source (Nat.toDigits 16 n ++ rest) =
      cutQuoted s (.code n (Nat.toDigits 16 n).length) value
        ((Nat.toDigits 16 n).reverse ++ source) rest := by
  induction n using Nat.strongRecOn generalizing rest with
  | _ n ih =>
      by_cases small : n < 16
      · rw [Nat.toDigits_of_lt_base small, List.singleton_append,
          cutQuoted_digit small (Nat.zero_lt_succ 5)]
        simp
      · rw [Nat.toDigits_of_base_le (by decide) (Nat.not_lt.mp small)] at short ⊢
        rw [List.length_append, List.length_singleton] at short
        rw [List.append_assoc, ih (n / 16) (by omega) (by omega), List.singleton_append,
          cutQuoted_digit (Nat.mod_lt n (by decide)) (by omega), Nat.div_add_mod]
        simp

/-- A character is read from the hexadecimal digits of its code point. -/
theorem cutQuoted_escapeCode (allowed : s.allowsCodes) (code : s.admitsCode c.toNat) :
    cutQuoted s .none value source (escapeCode c ++ rest) =
      cutQuoted s .none (c :: value) ((escapeCode c).reverse ++ source) rest := by
  have valid : c.toNat.isValidChar := c.valid
  have short : (Nat.toDigits 16 c.toNat).length ≤ 6 := by
    rw [Nat.length_toDigits_le_iff (by decide) (by decide)]
    unfold Nat.isValidChar at valid
    omega
  have filled : (Nat.toDigits 16 c.toNat).length ≠ 0 := Nat.ne_of_gt Nat.length_toDigits_pos
  have start : (Escape.start).step? s 'u' = some (.brace, []) := by simp [Escape.step?, allowed]
  have close : (Escape.code c.toNat (Nat.toDigits 16 c.toNat).length).step? s '\x7d' =
      some (.none, [c]) := by
    simp [Escape.step?, filled, code, charAt?, valid]
  have opening {more : List Char} : cutQuoted s .none value source ('\\' :: 'u' :: '\x7b' :: more) =
      cutQuoted s (.code 0 0) value ('\x7b' :: 'u' :: '\\' :: source) more := by
    rw [cutQuoted_open (by decide) rfl, cutQuoted_open (by decide) start,
      cutQuoted_open (by decide) rfl]
  simp only [escapeCode, List.cons_append, List.append_assoc, List.nil_append]
  rw [opening, cutQuoted_digits short, cutQuoted_close (.inl (by decide)) close]
  simp

/-! ### Texts -/

/-- A character is read from a backslash and a letter. -/
theorem cutQuoted_letter {letter : Char}
    (step : (Escape.start).step? s letter = some (.none, [c])) :
    cutQuoted s .none value source ('\\' :: letter :: rest) =
      cutQuoted s .none (c :: value) (letter :: '\\' :: source) rest := by
  rw [cutQuoted_open (by decide) rfl, cutQuoted_close (.inr rfl) step]

/-- A character is read from what is written for it in a text. -/
theorem cutQuoted_escapeUnprintable (c : Char) :
    cutQuoted .text .none value source (escapeUnprintable c ++ rest) =
      cutQuoted .text .none (c :: value) ((escapeUnprintable c).reverse ++ source) rest := by
  unfold escapeUnprintable
  split
  · next mark =>
      rcases mark with rfl | rfl
      · exact cutQuoted_letter rfl
      · exact cutQuoted_letter rfl
  next noMark =>
    split
    · next feed => exact feed ▸ cutQuoted_letter rfl
    split
    · next carriage => exact carriage ▸ cutQuoted_letter rfl
    next noCarriage =>
      split
      · next tab => exact tab ▸ cutQuoted_letter rfl
      split
      · next zero => exact zero ▸ cutQuoted_letter rfl
      split
      · rw [not_or] at noMark
        exact cutQuoted_close (.inl noMark.1)
          (by simp [Escape.step?, Escape.step?.plain, noMark.2, noCarriage, Charset.admits,
            Charset.text])
      · exact cutQuoted_escapeCode rfl rfl

theorem cutQuoted_escapeText (text : List Char) :
    cutQuoted .text .none value source (escapeText text ++ rest) =
      cutQuoted .text .none (text.reverse ++ value) ((escapeText text).reverse ++ source) rest := by
  induction text generalizing value source with
  | nil => rfl
  | cons c text ih =>
      have read {more : List Char} (h : c = '\x00') :
          cutQuoted .text .none value source ('\\' :: 'x' :: '0' :: '0' :: more) =
            cutQuoted .text .none (c :: value) ('0' :: '0' :: 'x' :: '\\' :: source) more := by
        subst h
        rw [cutQuoted_open (by decide) rfl, cutQuoted_open (by decide) rfl,
          cutQuoted_open (by decide) rfl, cutQuoted_close (.inr rfl) rfl]
        rfl
      rw [escapeText]
      split
      · next zero =>
          rw [Bool.and_eq_true, decide_eq_true_eq] at zero
          simp only [List.cons_append, List.nil_append]
          rw [read zero.1, ih]
          simp
      · rw [List.append_assoc, cutQuoted_escapeUnprintable, ih]
        simp

/-- The literal that is written for a text is read as the literal of the text, in front of whatever
begins with no name. -/
theorem readLiteral?_text (value : String) (h : ¬ rest.head?.any isIdentifierStart) :
    readLiteral? ('"' :: escapeText value.toList ++ '"' :: rest) = some (text value, rest) := by
  have suffix : cutSuffix rest = ([], rest) := by
    cases rest with
    | nil => rfl
    | cons c rest => simp_all [cutSuffix, cutName?]
  have read := @cutQuoted_escapeText [] [] ('"' :: rest) value.toList
  rw [List.append_nil, List.append_nil] at read
  rw [readLiteral?.eq_def, List.cons_append, cutText?, read]
  simp [cutQuoted, Escape.mayEnd, Cut.after, suffix, text]

end Winnow.Lexeme
