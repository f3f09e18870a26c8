import Winnow.Json.Printer
import Winnow.Json.Reader
import Winnow.Proofs.Number.Layout

/-!
Reading what is written: a string, a number or the items of an array are read up to the end of their
text, whatever may stand behind them in a document. Of fractions it is only known that they are
written with a point or an exponent and read back.
-/

namespace Winnow

/-- A text is a number of a document, with a point or an exponent. -/
def Json.isFraction (text : String) : Bool :=
  match Numeral.scan text.toList with
  | some (n, []) => isStrict n && !n.isWhole
  | _ => false

/-- Fractions are written with a point or an exponent, and each is read back from its text. -/
structure FractionFormat.ReadsBack (f : FractionFormat) : Prop where
  isFraction : ∀ x, Json.isFraction (f.write x)
  read?_write : ∀ x, f.read? (f.write x) = some x

/-- A whole number has 64 bits, with or without a sign. -/
def JsonNumber.Fits : JsonNumber → Prop
  | integer m => -(2 ^ 63) ≤ m ∧ m < 2 ^ 64
  | float _ => True

namespace Json

variable {f : FractionFormat} {rest : List Char}

/-! ### Strings -/

theorem readString_control (c : Char) (h : c.toNat < 0x20) (rest : List Char) :
    readString ('\\' :: 'u' :: '0' :: '0' :: Nat.digitChar (c.toNat / 16) ::
      Nat.digitChar (c.toNat % 16) :: rest) = consChar c (readString rest) := by
  have code : ∀ n < 0x20, codeUnit? '0' '0' (Nat.digitChar (n / 16)) (Nat.digitChar (n % 16)) =
      some n := by decide
  have char : unitChar? c.toNat = some c := by
    rw [unitChar?, if_neg (by omega), Char.ofNat_toNat]
  rw [readString, code _ h]
  simp only [char]

theorem readString_escape (c : Char) (rest : List Char) :
    readString (escape c ++ rest) = consChar c (readString rest) := by
  unfold escape
  split
  · next h => rcases h with rfl | rfl <;> rfl
  split
  · next h => subst h; rfl
  split
  · next h => subst h; rfl
  split
  · next h => subst h; rfl
  split
  · next h => subst h; rfl
  split
  · next h => subst h; rfl
  split
  · next h => exact readString_control c h rest
  · next marks _ _ _ _ _ visible =>
      rw [not_or] at marks
      rw [List.singleton_append, readString, if_neg visible]
      all_goals simp [marks]

/-- A string is read up to the quotation mark behind it. -/
theorem readString_flatMap (s rest : List Char) :
    readString (s.flatMap escape ++ '"' :: rest) = some (s, rest) := by
  induction s with
  | nil => rfl
  | cons c s ih => rw [List.flatMap_cons, List.append_assoc, readString_escape, ih]; rfl

theorem readString_writeString (s : String) (rest : List Char) :
    ∃ text, (writeString s).toList ++ rest = '"' :: text ∧
      readString text = some (s.toList, rest) := by
  refine ⟨s.toList.flatMap escape ++ '"' :: rest, ?_, readString_flatMap s.toList rest⟩
  simp [writeString, Text.quote]

/-! ### Numbers -/

/-- No numeral but zero begins with a zero, and digits stand behind a point. -/
theorem isStrict_iff (n : Numeral) :
    isStrict n ↔ (n.whole = ['0'] ∨ n.whole ≠ [] ∧ ∀ c ∈ n.whole.head?, c ≠ '0') ∧
      ∀ digits ∈ n.fraction, digits ≠ [] := by
  obtain ⟨negative, whole, fraction, exponent⟩ := n
  cases whole <;> cases fraction <;> simp [isStrict]

/-- The first digit of a positive number is not zero. -/
theorem exists_toDigits_eq_cons {n : Nat} (h : n ≠ 0) :
    ∃ c digits, Nat.toDigits 10 n = c :: digits ∧ c ≠ '0' := by
  induction n using Nat.strongRecOn with
  | _ n ih =>
      by_cases small : n < 10
      · have digit : ∀ m < 10, m ≠ 0 → m.digitChar ≠ '0' := by decide
        exact ⟨n.digitChar, [], Nat.toDigits_of_lt_base small, digit n small h⟩
      · obtain ⟨c, digits, hd, first⟩ := ih (n / 10) (by omega) (by omega)
        refine ⟨c, digits ++ [(n % 10).digitChar], ?_, first⟩
        rw [Nat.toDigits_of_base_le (by decide) (Nat.not_lt.mp small), hd, List.cons_append]

theorem isStrict_ofInt (n : Int) : isStrict (Numeral.ofInt n) := by
  refine (isStrict_iff _).mpr ⟨?_, by simp [Numeral.ofInt]⟩
  by_cases h : n = 0
  · exact .inl (by rw [h]; rfl)
  · obtain ⟨c, digits, hd, first⟩ := exists_toDigits_eq_cons (Int.natAbs_ne_zero.mpr h)
    refine .inr ⟨Nat.toDigits_ne_nil, ?_⟩
    simpa [Numeral.ofInt, hd] using first

theorem isStrict_numeral (d : Decimal) : isStrict d.numeral := by
  rw [isStrict_iff, Decimal.numeral]
  by_cases hz : d.coefficient = 0
  · rw [if_pos hz]
    exact ⟨.inl rfl, by simp⟩
  obtain ⟨c, digits, hd, first⟩ := exists_toDigits_eq_cons hz
  rw [if_neg hz, hd]
  split
  · exact ⟨.inl rfl, by simp⟩
  split
  · exact ⟨.inr ⟨by simp, by simpa using first⟩, by simp⟩
  · next hp hl =>
      obtain ⟨k, hk⟩ : ∃ k, ((c :: digits).length + d.exponent).toNat = k + 1 :=
        ⟨((c :: digits).length + d.exponent).toNat - 1, by omega⟩
      rw [hk] at hl ⊢
      refine ⟨.inr ⟨by simp, by simpa using first⟩, ?_⟩
      rintro _ ⟨⟩ empty
      exact hl (List.drop_eq_nil_iff.mp empty)

theorem isStrict_pointed {n : Numeral} (h : isStrict n) : isStrict n.pointed := by
  rw [isStrict_iff] at h ⊢
  refine ⟨h.1, ?_⟩
  rintro _ ⟨⟩
  cases hf : n.fraction with
  | none => simp
  | some digits => exact h.2 digits hf

theorem isStrict_scientificNumeral {d : Decimal} (h : d.coefficient ≠ 0) :
    isStrict d.scientificNumeral := by
  obtain ⟨c, digits, hd, first⟩ := exists_toDigits_eq_cons h
  rw [isStrict_iff, Decimal.scientificNumeral, hd]
  refine ⟨.inr ⟨by simp, by simpa using first⟩, fun fraction hf => ?_⟩
  dsimp only at hf
  split at hf
  · cases hf
  · next filled =>
      cases hf
      exact filled

theorem isStrict_jsonNumeral (d : Decimal) : isStrict d.jsonNumeral := by
  rw [Decimal.jsonNumeral]
  split
  · exact isStrict_pointed (isStrict_numeral d)
  · next h => exact isStrict_scientificNumeral fun hz => h (.inl hz)

theorem wholeOf?_ofInt {n : Int} (lower : -(2 ^ 63) ≤ n) (upper : n < 2 ^ 64) :
    wholeOf? (Numeral.ofInt n) = some n := by
  have size : (Numeral.ofInt n).value.coefficient = n.natAbs := by
    simp [Numeral.value, Numeral.ofInt, Decimal.digitsValue_digits]
  have whole : (Numeral.ofInt n).isWhole = true := rfl
  simp only [wholeOf?, whole, size, Nat.pow_eq]
  by_cases h : n < 0
  · have negative : (Numeral.ofInt n).negative = true := decide_eq_true h
    rw [negative, if_neg (by simp), if_pos rfl, if_neg (by omega)]
    congr 1
    omega
  · have negative : (Numeral.ofInt n).negative = false := decide_eq_false h
    rw [negative, if_neg (by simp), if_neg (by simp), if_pos (by omega)]
    congr 1
    omega

theorem isWhole_jsonNumeral (d : Decimal) : d.jsonNumeral.isWhole = false := by
  rw [Decimal.jsonNumeral]
  split
  · rfl
  · simp [Numeral.isWhole, Decimal.scientificNumeral]

theorem exists_of_isFraction {text : String} (h : isFraction text) :
    ∃ n, Numeral.scan text.toList = some (n, []) ∧ isStrict n ∧ n.isWhole = false := by
  rw [isFraction] at h
  split at h
  · next n scanned =>
      rw [Bool.and_eq_true, Bool.not_eq_true'] at h
      exact ⟨n, scanned, h⟩
  · cases h

theorem whole_ne_nil_of_isStrict {n : Numeral} (h : isStrict n) : n.whole ≠ [] := by
  rcases ((isStrict_iff n).mp h).1 with zero | filled
  · exact zero ▸ List.cons_ne_nil _ _
  · exact filled.1

/-- A number is read up to where its numeral ends. -/
theorem readNumber_append {text : List Char} {n : Numeral}
    (scanned : Numeral.scan text = some (n, [])) (strict : isStrict n) (stop : Numeral.Stops rest) :
    readNumber f (text ++ rest) = (numberOf? f n text).map (·, rest) := by
  obtain ⟨c, more, ht, -⟩ :=
    Numeral.exists_head_of_scan scanned (whole_ne_nil_of_isStrict strict)
  have filled : text ≠ [] := ht ▸ List.cons_ne_nil c more
  have front : (text ++ rest).take ((text ++ rest).length - rest.length) = text := by simp
  rw [readNumber, Numeral.scan_append filled stop scanned]
  simp only [strict, if_true, front]

/-- A number is read up to where it ends, as the same kind of number with the same value. -/
theorem readNumber_writeIn (back : f.ReadsBack) {n : JsonNumber} (fits : n.Fits)
    (stop : Numeral.Stops rest) : readNumber f ((n.writeIn f).toList ++ rest) = some (n, rest) := by
  cases n with
  | integer m =>
      obtain ⟨lower, upper⟩ := fits
      rw [JsonNumber.writeIn, Numeral.toList_toString,
        readNumber_append (Numeral.scan_text (Numeral.isPlain_ofInt m).isDecimal)
          (isStrict_ofInt m) stop, numberOf?, wholeOf?_ofInt lower upper]
      rfl
  | float x =>
      obtain ⟨n, scanned, strict, pointed⟩ := exists_of_isFraction (back.isFraction x)
      have fraction : wholeOf? n = none := by rw [wholeOf?, pointed]; rfl
      rw [JsonNumber.writeIn, readNumber_append scanned strict stop, numberOf?, fraction,
        String.ofList_toList, back.read?_write]
      rfl

/-! ### Documents -/

/-- A character that is not passed over as a blank. -/
def IsVisible (c : Char) : Prop := c ≠ ' ' ∧ c ≠ '\t' ∧ c ≠ '\n' ∧ c ≠ '\r'

instance : DecidablePred IsVisible := fun c => by
  unfold IsVisible
  infer_instance

theorem skipBlanks_cons {c : Char} (h : IsVisible c) (rest : List Char) :
    skipBlanks (c :: rest) = c :: rest := by
  obtain ⟨h₁, h₂, h₃, h₄⟩ := h
  simp [skipBlanks, h₁, h₂, h₃, h₄]

theorem ne_of_sign {c d : Char} (starts : c = '-' ∨ c.isDigit) (h : ¬ (d = '-' ∨ d.isDigit)) :
    c ≠ d := fun hc => h (hc ▸ starts)

theorem isVisible_of_sign {c : Char} (starts : c = '-' ∨ c.isDigit) : IsVisible c :=
  ⟨ne_of_sign starts (by decide), ne_of_sign starts (by decide), ne_of_sign starts (by decide),
    ne_of_sign starts (by decide)⟩

theorem exists_head_writeNumber (back : f.ReadsBack) (n : JsonNumber) :
    ∃ c rest, (n.writeIn f).toList = c :: rest ∧ (c = '-' ∨ c.isDigit) := by
  cases n with
  | integer m =>
      rw [JsonNumber.writeIn, Numeral.toList_toString]
      exact (Numeral.isPlain_ofInt m).isDecimal.exists_head
  | float x =>
      obtain ⟨n, scanned, strict, -⟩ := exists_of_isFraction (back.isFraction x)
      exact Numeral.exists_head_of_scan scanned (whole_ne_nil_of_isStrict strict)

/-- A document begins neither with a blank nor with the end of an array. -/
theorem exists_head_writeIn (back : f.ReadsBack) (v : Json) :
    ∃ c rest, (v.writeIn f).toList = c :: rest ∧ IsVisible c ∧ c ≠ ']' := by
  cases v with
  | null => exact ⟨'n', ['u', 'l', 'l'], by rw [writeIn]; rfl, by decide⟩
  | bool b =>
      cases b with
      | true => exact ⟨'t', ['r', 'u', 'e'], by rw [writeIn]; rfl, by decide⟩
      | false => exact ⟨'f', ['a', 'l', 's', 'e'], by rw [writeIn]; rfl, by decide⟩
  | number n =>
      obtain ⟨c, rest, ht, starts⟩ := exists_head_writeNumber back n
      exact ⟨c, rest, by rw [writeIn, ht], isVisible_of_sign starts, ne_of_sign starts (by decide)⟩
  | string s =>
      obtain ⟨text, ht, -⟩ := readString_writeString s []
      exact ⟨'"', text, by rw [writeIn, ← ht, List.append_nil], by decide⟩
  | array items =>
      exact ⟨'[', _, by simp only [writeIn, String.toList_append]; rfl, by decide⟩
  | object members =>
      exact ⟨'\x7b', _, by simp only [writeIn, String.toList_append]; rfl, by decide⟩

variable {depth : Nat}

theorem readValue_null :
    readValue f depth ((null.writeIn f).toList ++ rest) = some (null, rest) := by
  simp [writeIn, readValue, skipBlanks]

theorem readValue_bool (b : Bool) :
    readValue f depth (((bool b).writeIn f).toList ++ rest) = some (bool b, rest) := by
  cases b <;> simp [writeIn, readValue, skipBlanks]

theorem readValue_string (s : String) :
    readValue f depth (((string s).writeIn f).toList ++ rest) = some (string s, rest) := by
  obtain ⟨text, ht, read⟩ := readString_writeString s rest
  rw [writeIn, ht, readValue, skipBlanks_cons (by decide)]
  simp [read]

/-- A text that begins with a sign or a digit is read as a number. -/
theorem readValue_of_sign {c : Char} (starts : c = '-' ∨ c.isDigit) (text : List Char) :
    readValue f depth (c :: text) =
      (readNumber f (c :: text)).map fun (n, rest) => (number n, rest) := by
  rw [readValue, skipBlanks_cons (isVisible_of_sign starts)]
  split
  case h_7 => rfl
  all_goals
    next h => exact absurd (List.cons.inj h).1 (ne_of_sign starts (by decide))

theorem readValue_number (back : f.ReadsBack) {n : JsonNumber} (fits : n.Fits)
    (stop : Numeral.Stops rest) :
    readValue f depth (((number n).writeIn f).toList ++ rest) = some (number n, rest) := by
  have read := readNumber_writeIn back fits stop
  obtain ⟨c, text, ht, starts⟩ := exists_head_writeNumber back n
  rw [writeIn]
  rw [ht, List.cons_append] at read ⊢
  rw [readValue_of_sign starts, read]
  rfl

theorem readValue_array_succ (depth : Nat) (text : List Char) :
    readValue f (depth + 1) ('[' :: text) =
      (readRow? (readValue f depth) ']' text).map fun (items, rest) => (array items, rest) := by
  rw [readValue, skipBlanks_cons (by decide)]
  rfl

/-! ### Arrays -/

section Rows

variable {α : Type} {item : List Char → Option (α × List Char)} {close : Char}
  {text more : List Char} {x : α} {xs : List α}

theorem readRow_of_close (h : item text = some (x, close :: more))
    (visible : IsVisible close) :
    readRow item close text = some ([x], more) := by
  rw [readRow, h]
  simp only [skipBlanks_cons visible, if_true]

theorem readRow_of_comma (h : item text = some (x, ',' :: more)) (hc : ',' ≠ close)
    (shorter : more.length < text.length) :
    readRow item close text =
      (readRow item close more).map fun (values, rest) => (x :: values, rest) := by
  have visible : IsVisible ',' := by decide
  rw [readRow, h]
  simp only [skipBlanks_cons visible, if_neg hc, true_and, if_pos shorter]

theorem readRow_eq_none (h : item text = none) : readRow item close text = none := by
  rw [readRow, h]

/-- What a row holds was read as an item. -/
theorem exists_of_mem_readRow (h : readRow item close text = some (xs, rest)) (hx : x ∈ xs) :
    ∃ front behind, item front = some (x, behind) := by
  fun_induction readRow item close text generalizing xs rest with
  | case1 => cases h
  | case2 => cases h
  | case3 text value behind read =>
      cases h
      rw [List.mem_singleton] at hx
      exact ⟨_, _, hx ▸ read⟩
  | case4 text value behind read c more _ _ _ ih =>
      obtain ⟨⟨values, last⟩, row, same⟩ := Option.map_eq_some_iff.mp h
      cases same
      rcases List.mem_cons.mp hx with rfl | hx
      · exact ⟨_, _, read⟩
      · exact ih row hx
  | case5 => cases h

theorem exists_of_mem_readRow? (h : readRow? item close text = some (xs, rest)) (hx : x ∈ xs) :
    ∃ front behind, item front = some (x, behind) := by
  rw [readRow?] at h
  split at h
  · cases h
  split at h
  · cases h
    cases hx
  · exact exists_of_mem_readRow h hx

end Rows

/-- What stands behind an item: the end of the array, or a comma and the other items. -/
def behind (f : FractionFormat) (items : List Json) (rest : List Char) : List Char :=
  if items = [] then ']' :: rest else ',' :: ((writeItemsIn f items).toList ++ ']' :: rest)

theorem writeItemsIn_cons_append (v : Json) (items : List Json) (rest : List Char) :
    (writeItemsIn f (v :: items)).toList ++ ']' :: rest =
      (v.writeIn f).toList ++ behind f items rest := by
  cases items <;> simp [writeItemsIn, behind, String.toList_append]

theorem stops_behind (f : FractionFormat) (items : List Json) (rest : List Char) :
    Numeral.Stops (behind f items rest) := by
  rw [behind]
  split <;> rintro _ ⟨⟩ <;> decide

section Items

variable {β : Type} {g : β → Json} {P : β → Prop} [DecidablePred P]
  {item : List Char → Option (Json × List Char)}

/-- A row is read if each of its items is. -/
theorem readRow_writeIn {x : β} {xs : List β}
    (each : ∀ y ∈ x :: xs, ∀ rest, Numeral.Stops rest →
      item (((g y).writeIn f).toList ++ rest) = if P y then some (g y, rest) else none)
    (rest : List Char) :
    readRow item ']' ((writeItemsIn f ((x :: xs).map g)).toList ++ ']' :: rest) =
      if ∀ y ∈ x :: xs, P y then some ((x :: xs).map g, rest) else none := by
  induction xs generalizing x with
  | nil =>
      -- The last item: a bracket stands behind it.
      have first := each x (List.mem_singleton_self x) _ (stops_behind f [] rest)
      rw [List.map_singleton, writeItemsIn_cons_append]
      simp only [List.mem_singleton, forall_eq]
      by_cases hx : P x
      · rw [if_pos hx] at first ⊢
        exact readRow_of_close first (by decide)
      · rw [if_neg hx] at first ⊢
        exact readRow_eq_none first
  | cons y ys ih =>
      obtain ⟨first, each⟩ := List.forall_mem_cons.mp each
      -- A comma stands behind the item, and the text behind that is shorter than the whole row.
      replace first := first _ (stops_behind f ((y :: ys).map g) rest)
      rw [List.map_cons, writeItemsIn_cons_append]
      simp only [List.forall_mem_cons (a := x)]
      by_cases hx : P x
      · rw [if_pos hx, behind, if_neg (by simp)] at first
        rw [behind, if_neg (by simp), readRow_of_comma first (by decide) (by simp; omega), ih each]
        by_cases hy : ∀ z ∈ y :: ys, P z
        · rw [if_pos hy, if_pos ⟨hx, hy⟩]
          rfl
        · rw [if_neg hy, if_neg (hy ·.2)]
          rfl
      · rw [if_neg hx] at first
        rw [readRow_eq_none first, if_neg (hx ·.1)]

theorem readRow?_writeIn (back : f.ReadsBack) {xs : List β}
    (each : ∀ y ∈ xs, ∀ rest, Numeral.Stops rest →
      item (((g y).writeIn f).toList ++ rest) = if P y then some (g y, rest) else none)
    (rest : List Char) :
    readRow? item ']' ((writeItemsIn f (xs.map g)).toList ++ ']' :: rest) =
      if ∀ y ∈ xs, P y then some (xs.map g, rest) else none := by
  cases xs with
  | nil =>
      have visible : IsVisible ']' := by decide
      simp [writeItemsIn, readRow?, skipBlanks_cons visible]
  | cons x xs =>
      obtain ⟨c, text, ht, visible, other⟩ := exists_head_writeIn back (g x)
      have row := readRow_writeIn each rest
      rw [List.map_cons, writeItemsIn_cons_append, ht, List.cons_append] at row ⊢
      rw [readRow?, skipBlanks_cons visible]
      dsimp only
      rw [if_neg other, row]

end Items

/-! ### What is read -/

/-- Whole numbers that are read have 64 bits. -/
theorem bounds_of_wholeOf? {n : Numeral} {m : Int} (h : wholeOf? n = some m) :
    -(2 ^ 63) ≤ m ∧ m < 2 ^ 64 := by
  simp only [wholeOf?, Nat.pow_eq] at h
  split at h
  · cases h
  split at h
  · split at h
    · cases h
    · cases h
      omega
  · split at h
    · cases h
      omega
    · cases h

theorem fits_of_numberOf? {n : Numeral} {m : JsonNumber} {text : List Char}
    (h : numberOf? f n text = some m) : m.Fits := by
  rw [numberOf?] at h
  split at h
  · next whole =>
      cases h
      exact bounds_of_wholeOf? whole
  · obtain ⟨_, -, rfl⟩ := Option.map_eq_some_iff.mp h
    trivial

theorem fits_of_readNumber {text : List Char} {n : JsonNumber}
    (h : readNumber f text = some (n, rest)) : n.Fits := by
  rw [readNumber] at h
  split at h
  · split at h
    · obtain ⟨_, number, same⟩ := Option.map_eq_some_iff.mp h
      cases same
      exact fits_of_numberOf? number
    · cases h
  · cases h

/-- Arrays that are read leave less depth for their items. -/
theorem exists_of_readValue_array {text : List Char} {items : List Json}
    (h : readValue f depth text = some (array items, rest)) :
    ∃ inner row, depth = inner + 1 ∧ readRow? (readValue f inner) ']' row = some (items, rest) := by
  rw [readValue] at h
  split at h
  case h_5 =>
    cases depth with
    | zero => cases h
    | succ inner =>
        obtain ⟨_, row, same⟩ := Option.map_eq_some_iff.mp h
        cases same
        exact ⟨inner, _, rfl, row⟩
  case h_6 =>
    cases depth with
    | zero => cases h
    | succ inner => simp [ofMembers] at h
  all_goals
    simp at h

theorem fits_of_readValue_number {text : List Char} {n : JsonNumber}
    (h : readValue f depth text = some (number n, rest)) : n.Fits := by
  rw [readValue] at h
  split at h
  case h_7 =>
    obtain ⟨_, read, same⟩ := Option.map_eq_some_iff.mp h
    cases same
    exact fits_of_readNumber read
  case h_5 =>
    cases depth with
    | zero => cases h
    | succ inner => simp at h
  case h_6 =>
    cases depth with
    | zero => cases h
    | succ inner => simp [ofMembers] at h
  all_goals
    simp at h

end Json

theorem FractionFormat.nearest_readsBack : nearest.ReadsBack where
  isFraction x := by
    have strict := Json.isStrict_jsonNumeral x.toDecimal
    have pointed := Json.isWhole_jsonNumeral x.toDecimal
    have scanned := Numeral.scan_text x.toDecimal.jsonNumeral_isDecimal
    simp [Json.isFraction, nearest, Decimal.write_json, scanned, strict, pointed]
  read?_write x := by
    have filled := x.toDecimal.jsonNumeral_isDecimal.whole_ne_nil
    have scanned := Numeral.scan_text x.toDecimal.jsonNumeral_isDecimal
    simp [nearest, Decimal.write_json, Numeral.ofText?, scanned, Numeral.hasDigits, filled,
      Decimal.toBinary_jsonNumeral, x.toBinary_toDecimal]

end Winnow
