import Mathlib.Data.List.TakeWhile
import Mathlib.Tactic.Common
import Winnow.Predicate.Token
import Winnow.Proofs.Number.Numeral

/-!
Scanning a text piece by piece. A text that cannot run on into the one after it is scanned on its
own, so the tokens of a concatenation are the tokens of its pieces.
-/

namespace Winnow.Token

/-- The characters after which a new token begins, whatever follows. -/
def closers : List Char := [' ', ']', '(', ')', '{', '}', ',', '?']

def signs : List Char := ['[', '=', '!', '<', '>']

/-- A character that belongs to no token that begins before it. -/
def opens (c : Char) : Bool := !isWordPart c && !isNumberPart c && c != '='

/-- No token of the one text can run on into the other. -/
def Apart (a b : List Char) : Prop := (∀ c ∈ a.getLast?, c ∈ closers) ∨ ∀ c ∈ b.head?, opens c

theorem not_isWordPart_of_mem : ∀ c ∈ closers ++ signs, isWordPart c = false := by
  simp [closers, signs, isWordPart]
  decide

theorem not_isNumberPart_of_mem : ∀ c ∈ closers ++ signs, isNumberPart c = false := by
  simp [closers, signs, isNumberPart]

theorem not_isOperatorStart_of_mem : ∀ c ∈ '[' :: closers, isOperatorStart c = false := by
  simp [closers, isOperatorStart]

theorem mem_signs_of_isOperatorStart {c : Char} (h : isOperatorStart c) : c ∈ signs := by
  simp only [isOperatorStart, Bool.or_eq_true, beq_iff_eq] at h
  simp [signs]
  tauto

theorem ofMark?_eq_none {c : Char} (h : c ∉ closers) : ofMark? c = none := by
  simp only [closers, List.mem_cons, List.not_mem_nil, or_false, not_or] at h
  simp [ofMark?, h]

theorem ofMark?_eq_none_of_operator {c : Char} (h : isOperatorStart c) : ofMark? c = none :=
  ofMark?_eq_none fun hm => by
    simp [not_isOperatorStart_of_mem c (List.mem_cons_of_mem _ hm)] at h

theorem isNumberPart_of_startsNumber {c : Char} {rest : List Char} (h : startsNumber c rest) :
    isNumberPart c := by
  simp only [startsNumber, Bool.or_eq_true, Bool.and_eq_true, beq_iff_eq] at h
  rcases h with h | ⟨rfl, -⟩
  · simp [isNumberPart, h]
  · rfl

/-! ### The tokens one by one -/

section Scan

variable {c : Char} {rest : List Char}

theorem scan_mark {token : Token} (h : ofMark? c = some token) :
    scan c rest = .ok (token, ⟨rest, Nat.le_refl _⟩) := by
  simp only [scan, h]

theorem scan_options {d : Char} {more : List Char} (h : rest.dropWhile (· != ']') = d :: more) :
    ∃ hm, scan '[' rest =
      .ok (options (String.ofList (rest.takeWhile (· != ']'))), ⟨more, hm⟩) := by
  have hm : ofMark? '[' = none := rfl
  refine ⟨?_, ?_⟩
  · have := (List.dropWhile_suffix (l := rest) (· != ']')).length_le
    simp only [h, List.length_cons] at this
    omega
  · simp only [scan, hm, ↓reduceIte]
    split
    · next he => simp [h] at he
    · next he =>
        rw [h] at he
        cases he
        rfl

theorem scan_unterminated (h : rest.dropWhile (· != ']') = []) :
    scan '[' rest = .error .unterminatedOptions := by
  have hm : ofMark? '[' = none := rfl
  simp only [scan, hm, ↓reduceIte]
  split
  · rfl
  · next he => simp [h] at he

theorem scan_longOperator (hc : isOperatorStart c) (h : rest.head? = some '=') :
    ∃ hm, scan c rest = .ok (operator (String.ofList [c, '=']), ⟨rest.drop 1, hm⟩) := by
  have hb : c ≠ '[' := by
    rintro rfl
    cases hc
  exact ⟨by simp, by simp [scan, ofMark?_eq_none_of_operator hc, hb, hc, h]⟩

theorem scan_operator (hc : isOperatorStart c) (h : rest.head? ≠ some '=') :
    scan c rest = .ok (operator (String.singleton c), ⟨rest, Nat.le_refl _⟩) := by
  have hb : c ≠ '[' := by
    rintro rfl
    cases hc
  simp [scan, ofMark?_eq_none_of_operator hc, hb, hc, h]

/-- What begins neither with a mark nor with a sign is a number or a word. -/
theorem scan_of_not_mem (h : c ∉ closers ++ signs) :
    scan c rest =
      if startsNumber c rest then
        match Numeral.ofText? (c :: rest.takeWhile isNumberPart) with
        | none => .error (.badNumber (String.ofList (c :: rest.takeWhile isNumberPart)))
        | some n => .ok (number (n.value.toBinary .double),
            ⟨rest.dropWhile isNumberPart, (List.dropWhile_suffix _).length_le⟩)
      else if isWordPart c then
        .ok (word (String.ofList (c :: rest.takeWhile isWordPart)),
          ⟨rest.dropWhile isWordPart, (List.dropWhile_suffix _).length_le⟩)
      else .error (.unexpectedCharacter c) := by
  rw [List.mem_append, not_or] at h
  have hb : c ≠ '[' := by
    rintro rfl
    exact h.2 (by decide)
  have ho : isOperatorStart c = false := by
    by_contra ho
    exact h.2 (mem_signs_of_isOperatorStart (by simpa using ho))
  rw [scan, ofMark?_eq_none h.1]
  exact (if_neg hb).trans (if_neg (by simp [ho]))

theorem scan_number (h : startsNumber c rest) :
    scan c rest =
      match Numeral.ofText? (c :: rest.takeWhile isNumberPart) with
      | none => .error (.badNumber (String.ofList (c :: rest.takeWhile isNumberPart)))
      | some n => .ok (number (n.value.toBinary .double),
          ⟨rest.dropWhile isNumberPart, (List.dropWhile_suffix _).length_le⟩) := by
  have hc : c ∉ closers ++ signs := fun hm => by
    simpa [not_isNumberPart_of_mem c hm] using isNumberPart_of_startsNumber h
  rw [scan_of_not_mem hc, if_pos h]

theorem scan_word (hn : ¬ startsNumber c rest) (h : isWordPart c) :
    scan c rest = .ok (word (String.ofList (c :: rest.takeWhile isWordPart)),
      ⟨rest.dropWhile isWordPart, (List.dropWhile_suffix _).length_le⟩) := by
  have hc : c ∉ closers ++ signs := fun hm => by
    simp [not_isWordPart_of_mem c hm] at h
  rw [scan_of_not_mem hc, if_neg hn, if_pos h]

theorem scan_unexpected (hm : ofMark? c = none) (hb : c ≠ '[') (ho : ¬ isOperatorStart c)
    (hn : ¬ startsNumber c rest) (hw : ¬ isWordPart c) :
    scan c rest = .error (.unexpectedCharacter c) := by
  simp [scan, hm, hb, ho, hn, hw]

variable (c rest) in
/-- What a token can be by its first character. -/
inductive ScanCase : Prop where
  | mark (token : Token) (h : ofMark? c = some token)
  | options (d : Char) (more : List Char) (hc : c = '[')
      (h : rest.dropWhile (· != ']') = d :: more)
  | unterminated (hc : c = '[') (h : rest.dropWhile (· != ']') = [])
  | longOperator (hc : isOperatorStart c) (h : rest.head? = some '=')
  | operator (hc : isOperatorStart c) (h : rest.head? ≠ some '=')
  | number (h : startsNumber c rest)
  | word (hn : ¬ startsNumber c rest) (h : isWordPart c)
  | unexpected (hm : ofMark? c = none) (hb : c ≠ '[') (ho : ¬ isOperatorStart c)
      (hn : ¬ startsNumber c rest) (hw : ¬ isWordPart c)

theorem scanCase (c : Char) (rest : List Char) : ScanCase c rest := by
  cases hm : ofMark? c with
  | some token => exact .mark token hm
  | none =>
      by_cases hb : c = '['
      · cases hd : rest.dropWhile (· != ']') with
        | nil => exact .unterminated hb hd
        | cons d more => exact .options d more hb hd
      by_cases ho : isOperatorStart c
      · by_cases he : rest.head? = some '='
        · exact .longOperator ho he
        · exact .operator ho he
      by_cases hn : startsNumber c rest
      · exact .number hn
      by_cases hw : isWordPart c
      · exact .word hn hw
      exact .unexpected hm hb ho hn hw

end Scan

/-- Only an opening bracket can be left without its closing one. -/
theorem eq_bracket_of_scan {c : Char} {rest : List Char}
    (h : scan c rest = .error .unterminatedOptions) : c = '[' := by
  cases scanCase c rest with
  | mark _ hm => simp [scan_mark hm] at h
  | options _ _ hb _ => exact hb
  | unterminated hb _ => exact hb
  | longOperator ho hh =>
      obtain ⟨_, he⟩ := scan_longOperator ho hh
      simp [he] at h
  | operator ho hh => simp [scan_operator ho hh] at h
  | number hn =>
      rw [scan_number hn] at h
      split at h <;> cases h
  | word hn hw => simp [scan_word hn hw] at h
  | unexpected hm hb ho hn hw => simp [scan_unexpected hm hb ho hn hw] at h

/-! ### Texts that go on -/

/-- The result of `scan` when the text goes on. -/
def goOn {rest : List Char} (b : List Char)
    (found : Token × { r : List Char // r.length ≤ rest.length }) :
    Token × { r : List Char // r.length ≤ (rest ++ b).length } :=
  (found.1, ⟨found.2.val ++ b, by
    have := found.2.property
    simp only [List.length_append]
    omega⟩)

theorem Apart.of_suffix {a b more : List Char} (h : Apart a b) (hs : more <:+ a) :
    Apart more b := by
  refine h.imp (fun last c hc => ?_) id
  obtain ⟨front, rfl⟩ := hs
  cases more with
  | nil => cases hc
  | cons d more => exact last c (by rw [List.getLast?_append, hc]; rfl)

/-- Text that ends within a token is followed by text that opens. -/
theorem Apart.opens_head {a b : List Char} {c : Char} (h : Apart a b) (hc : c ∈ a.getLast?)
    (hn : c ∉ closers) : ∀ d ∈ b.head?, opens d :=
  h.resolve_left fun last => hn (last c hc)

/-- A run of a class at the front of a text ends where it ended when the text goes on. -/
theorem run_append_of_stop {p : Char → Bool} {a b : List Char}
    (h : a.dropWhile p = [] → ∀ d ∈ b.head?, p d = false) :
    (a ++ b).takeWhile p = a.takeWhile p ∧ (a ++ b).dropWhile p = a.dropWhile p ++ b := by
  induction a with
  | nil =>
      cases b with
      | nil => simp
      | cons d b => simp [h rfl d rfl]
  | cons c a ih =>
      cases hc : p c with
      | false => simp [hc]
      | true =>
          simp only [List.dropWhile_cons_of_pos hc] at h
          simp [hc, ih h]

/-- A run of a class without closing characters ends where the text ends. -/
theorem run_append {p : Char → Bool} {c : Char} {rest b : List Char} (hc : p c)
    (closed : ∀ d ∈ closers, p d = false) (opened : ∀ d, opens d → p d = false)
    (apart : Apart (c :: rest) b) :
    (rest ++ b).takeWhile p = rest.takeWhile p ∧
      (rest ++ b).dropWhile p = rest.dropWhile p ++ b := by
  refine run_append_of_stop fun h => ?_
  have all : ∀ d ∈ c :: rest, p d := by
    rw [List.dropWhile_eq_nil_iff] at h
    simpa [hc] using h
  have last : (c :: rest).getLast (List.cons_ne_nil c rest) ∉ closers := fun hm => by
    have inside := all _ (List.getLast_mem (List.cons_ne_nil c rest))
    rw [closed _ hm] at inside
    cases inside
  intro d hd
  exact opened d (apart.opens_head (List.getLast?_eq_some_getLast _) last d hd)

theorem opens_not_isWordPart {c : Char} (h : opens c) : isWordPart c = false := by
  simp only [opens, Bool.and_eq_true, Bool.not_eq_true'] at h
  exact h.1.1

theorem opens_not_isNumberPart {c : Char} (h : opens c) : isNumberPart c = false := by
  simp only [opens, Bool.and_eq_true, Bool.not_eq_true'] at h
  exact h.1.2

theorem not_opens_equals : ¬ opens '=' := by decide

theorem scan_suffix {c : Char} {rest : List Char} {token : Token} {more}
    (h : scan c rest = .ok (token, more)) : more.val <:+ rest := by
  cases scanCase c rest with
  | mark mark hm =>
      rw [scan_mark hm] at h
      cases h
      exact List.suffix_refl _
  | options d tail hc hd =>
      subst hc
      obtain ⟨_, he⟩ := scan_options hd
      rw [he] at h
      cases h
      exact (List.suffix_cons d tail).trans (hd ▸ List.dropWhile_suffix _)
  | unterminated hc hd =>
      subst hc
      rw [scan_unterminated hd] at h
      cases h
  | longOperator hc hh =>
      obtain ⟨_, he⟩ := scan_longOperator hc hh
      rw [he] at h
      cases h
      exact List.drop_suffix 1 rest
  | operator hc hh =>
      rw [scan_operator hc hh] at h
      cases h
      exact List.suffix_refl _
  | number hn =>
      rw [scan_number hn] at h
      split at h
      · cases h
      · cases h
        exact List.dropWhile_suffix _
  | word hn hw =>
      rw [scan_word hn hw] at h
      cases h
      exact List.dropWhile_suffix _
  | unexpected hm hb ho hn hw =>
      rw [scan_unexpected hm hb ho hn hw] at h
      cases h

theorem startsNumber_append {c : Char} {rest b : List Char} (apart : Apart (c :: rest) b) :
    startsNumber c (rest ++ b) = startsNumber c rest := by
  cases rest with
  | cons d rest => rfl
  | nil =>
      by_cases hc : c = '-'
      · subst hc
        cases b with
        | nil => rfl
        | cons d b =>
            have hd := opens_not_isNumberPart (apart.opens_head rfl (by decide) d rfl)
            have : d.isDigit = false := by
              simp only [isNumberPart, Bool.or_eq_false_iff] at hd
              tauto
            simp [startsNumber, this]
      · simp [startsNumber, hc]

/-- A token is read as before when the text goes on, and the rest goes on too. -/
theorem scan_append {c : Char} {rest b : List Char} (apart : Apart (c :: rest) b)
    (h : scan c rest ≠ .error .unterminatedOptions) :
    scan c (rest ++ b) = (scan c rest).map (goOn b) := by
  cases scanCase c rest with
  | mark mark hm =>
      rw [scan_mark hm, scan_mark hm]
      rfl
  | options d tail hc hd =>
      subst hc
      -- The bracket is closed within the text, so its run never reaches what follows.
      have stop : rest.dropWhile (· != ']') = [] → ∀ e ∈ b.head?, (e != ']') = false :=
        fun hn => by simp [hn] at hd
      have run := run_append_of_stop stop
      obtain ⟨_, he⟩ := scan_options hd
      obtain ⟨_, he'⟩ := scan_options (run.2.trans (congrArg (· ++ b) hd))
      rw [he, he', run.1]
      rfl
  | unterminated hc hd =>
      subst hc
      exact absurd (scan_unterminated hd) h
  | longOperator hc hh =>
      cases rest with
      | nil => cases hh
      | cons d rest =>
          obtain ⟨_, he⟩ := scan_longOperator hc hh
          obtain ⟨_, he'⟩ := @scan_longOperator c (d :: rest ++ b) hc hh
          rw [he, he']
          rfl
  | operator hc hh =>
      -- Only an equals sign makes an operator longer, and what opens does not begin with one.
      have hh' : (rest ++ b).head? ≠ some '=' := by
        cases rest with
        | nil =>
            intro hb
            have hn : c ∉ closers := fun hm => by
              simp [not_isOperatorStart_of_mem c (List.mem_cons_of_mem _ hm)] at hc
            exact not_opens_equals (apart.opens_head rfl hn '=' hb)
        | cons d rest => exact hh
      rw [scan_operator hc hh, scan_operator hc hh']
      rfl
  | number hn =>
      have run := run_append (isNumberPart_of_startsNumber hn)
        (fun d hd => not_isNumberPart_of_mem d (List.mem_append_left _ hd))
        (fun d => opens_not_isNumberPart) apart
      have hn' : startsNumber c (rest ++ b) := startsNumber_append apart ▸ hn
      rw [scan_number hn, scan_number hn', run.1]
      cases Numeral.ofText? (c :: rest.takeWhile isNumberPart) with
      | none => rfl
      | some n => simp only [Except.map, goOn, run.2]
  | word hn hw =>
      have run := run_append hw
        (fun d hd => not_isWordPart_of_mem d (List.mem_append_left _ hd))
        (fun d => opens_not_isWordPart) apart
      have hn' : ¬ startsNumber c (rest ++ b) := startsNumber_append apart ▸ hn
      rw [scan_word hn hw, scan_word hn' hw]
      simp only [Except.map, goOn, run]
  | unexpected hm hb ho hn hw =>
      have hn' : ¬ startsNumber c (rest ++ b) := startsNumber_append apart ▸ hn
      rw [scan_unexpected hm hb ho hn hw, scan_unexpected hm hb ho hn' hw]
      rfl

/-! ### Whole texts -/

theorem scanAll_nil : scanAll [] = .ok [] := by
  rw [scanAll]

theorem scanAll_space (rest : List Char) : scanAll (' ' :: rest) = scanAll rest := by
  rw [scanAll, if_pos rfl]

theorem scanAll_cons {c : Char} (hc : c ≠ ' ') (rest : List Char) :
    scanAll (c :: rest) = (scan c rest).bind fun (token, more) =>
      (scanAll more.val).map (token :: ·) := by
  rw [scanAll, if_neg hc]
  cases scan c rest with
  | error e => rfl
  | ok found =>
      obtain ⟨token, more, hm⟩ := found
      dsimp only [Except.bind]
      cases scanAll more with
      | error e => rfl
      | ok tokens => rfl

/-- The tokens of a text are those of its front and those of the rest. -/
theorem scanAll_append {a b : List Char} (apart : Apart a b)
    (h : scanAll a ≠ .error .unterminatedOptions) :
    scanAll (a ++ b) = (scanAll a).bind fun tokens => (scanAll b).map (tokens ++ ·) := by
  fun_induction scanAll a with
  | case1 =>
      rw [List.nil_append]
      cases scanAll b <;> rfl
  | case2 rest ih =>
      rw [List.cons_append, scanAll_space]
      exact ih (apart.of_suffix (List.suffix_cons _ _)) h
  | case3 c rest hc e he =>
      have go := scan_append apart (by simpa [he] using h)
      rw [List.cons_append, scanAll_cons hc, go, he]
      rfl
  | case4 c rest hc token more hm hs e he ih =>
      have go := scan_append apart (by simp [hs])
      have tail := ih (apart.of_suffix ((scan_suffix hs).trans (List.suffix_cons _ _)))
        (by rwa [he])
      rw [List.cons_append, scanAll_cons hc, go, hs]
      simp only [Except.map, goOn, Except.bind, tail, he]
  | case5 c rest hc token more hm hs tokens ht ih =>
      have go := scan_append apart (by simp [hs])
      have tail := ih (apart.of_suffix ((scan_suffix hs).trans (List.suffix_cons _ _)))
        (by simp [ht])
      rw [List.cons_append, scanAll_cons hc, go, hs]
      simp only [Except.map, goOn, Except.bind, tail, ht]
      cases scanAll b <;> rfl

theorem scanAll_append_of_ok {a b : List Char} {tokens : List Token} (h : scanAll a = .ok tokens)
    (apart : Apart a b) : scanAll (a ++ b) = (scanAll b).map (tokens ++ ·) := by
  rw [scanAll_append apart (by simp [h]), h]
  rfl

theorem scanAll_ne_unterminated {text : List Char} (h : '[' ∉ text) :
    scanAll text ≠ .error .unterminatedOptions := by
  fun_induction scanAll text with
  | case1 => simp
  | case2 rest ih => exact ih fun hb => h (List.mem_cons_of_mem _ hb)
  | case3 c rest hc e he =>
      rintro ⟨⟩
      exact h (eq_bracket_of_scan he ▸ List.mem_cons_self)
  | case4 c rest hc token more hm hs e he ih =>
      rw [← he]
      exact ih fun hb => h (List.mem_cons_of_mem c ((scan_suffix hs).subset hb))
  | case5 => simp

theorem not_startsNumber_of_isWordPart {c : Char} {rest : List Char} (h : isWordPart c)
    (hd : ¬ c.isDigit) : ¬ startsNumber c rest := by
  have hc : c ≠ '-' := by
    rintro rfl
    cases h
  simp [startsNumber, hd, hc]

/-- Letters in brackets are one token. -/
theorem scanAll_options {codes : List Char} (h : ']' ∉ codes) (rest : List Char) :
    scanAll ('[' :: (codes ++ ']' :: rest)) =
      (scanAll rest).map (options (String.ofList codes) :: ·) := by
  have inside : ∀ c ∈ codes, (c != ']') = true := fun c hc => by
    simpa using ne_of_mem_of_not_mem hc h
  have drop : (codes ++ ']' :: rest).dropWhile (· != ']') = ']' :: rest := by
    rw [List.dropWhile_append_of_pos inside]
    simp
  have take : (codes ++ ']' :: rest).takeWhile (· != ']') = codes := by
    rw [List.takeWhile_append_of_pos inside]
    simp
  obtain ⟨_, he⟩ := scan_options drop
  rw [scanAll_cons (by decide), he, take]
  rfl

/-- Where all characters are those of words, the first token is a number or a word of them. -/
theorem scan_name {c : Char} {rest : List Char} {token : Token} {more} (hc : isWordPart c)
    (h : scan c rest = .ok (token, more)) :
    (∃ x, token = number x) ∨ ∃ text, token = word text ∧ ∀ d ∈ text.toList, d ∈ c :: rest := by
  have apart : c ∉ closers ++ signs := fun hm => by simp [not_isWordPart_of_mem c hm] at hc
  rw [scan_of_not_mem apart, if_pos hc] at h
  split at h
  · split at h
    · cases h
    · cases h
      exact .inl ⟨_, rfl⟩
  · cases h
    refine .inr ⟨_, rfl, fun d hd => ?_⟩
    rw [String.toList_ofList] at hd
    rcases List.mem_cons.mp hd with rfl | hd
    · exact List.mem_cons_self
    · exact List.mem_cons_of_mem c ((List.takeWhile_prefix _).subset hd)

/-- A text of characters of words is scanned as numbers and words of its characters. -/
theorem scanAll_name {text : List Char} {tokens : List Token} (part : ∀ c ∈ text, isWordPart c)
    (h : scanAll text = .ok tokens) : ∀ token ∈ tokens,
      (∃ x, token = number x) ∨ ∃ w, token = word w ∧ ∀ c ∈ w.toList, c ∈ text := by
  fun_induction scanAll text generalizing tokens with
  | case1 =>
      cases h
      simp
  | case2 rest ih => exact absurd (part ' ' List.mem_cons_self) (by decide)
  | case3 => cases h
  | case4 => cases h
  | case5 c rest hc token more hm hs others ho ih =>
      cases h
      have suffix : more <:+ rest := scan_suffix hs
      intro t ht
      rcases List.mem_cons.mp ht with rfl | ht
      · exact scan_name (part c List.mem_cons_self) hs
      · have inside {d : Char} (hd : d ∈ more) : d ∈ c :: rest :=
          List.mem_cons_of_mem c (suffix.subset hd)
        refine (ih (fun d hd => part d (inside hd)) ho t ht).imp_right ?_
        rintro ⟨w, rfl, hw⟩
        exact ⟨w, rfl, fun d hd => inside (hw d hd)⟩

/-- A word is one token unless it begins with a digit. -/
theorem scanAll_word {c : Char} {rest : List Char} (hd : ¬ c.isDigit)
    (h : ∀ d ∈ c :: rest, isWordPart d) :
    scanAll (c :: rest) = .ok [word (String.ofList (c :: rest))] := by
  have hc : isWordPart c := h c List.mem_cons_self
  have hr : ∀ d ∈ rest, isWordPart d := fun d hd => h d (List.mem_cons_of_mem c hd)
  have hs : c ≠ ' ' := by
    rintro rfl
    cases hc
  rw [scanAll_cons hs, scan_word (not_startsNumber_of_isWordPart hc hd) hc]
  simp only [Except.bind, List.takeWhile_eq_self_iff.mpr hr, List.dropWhile_eq_nil_iff.mpr hr,
    scanAll_nil]
  rfl

theorem scanAll_number {c : Char} {rest : List Char} {n : Numeral} (hn : startsNumber c rest)
    (h : ∀ d ∈ rest, isNumberPart d) (read : Numeral.ofText? (c :: rest) = some n) :
    scanAll (c :: rest) = .ok [number (n.value.toBinary .double)] := by
  have hs : c ≠ ' ' := by
    rintro rfl
    cases isNumberPart_of_startsNumber hn
  rw [scanAll_cons hs, scan_number hn]
  simp only [List.takeWhile_eq_self_iff.mpr h, List.dropWhile_eq_nil_iff.mpr h, read, Except.bind,
    scanAll_nil]
  rfl

theorem isNumberPart_of_mem_plainText {n : Numeral} (h : n.IsPlain) {c : Char}
    (hc : c ∈ n.plainText) : isNumberPart c := by
  have digit {d : Char} (hd : d.isDigit) : isNumberPart d := by simp [isNumberPart, hd]
  simp only [Numeral.plainText, Numeral.unsignedText, List.mem_append] at hc
  rcases hc with hc | hc | hc
  · split at hc
    · rw [List.mem_singleton.mp hc]
      rfl
    · cases hc
  · exact digit (h.whole c hc)
  · cases hf : n.fraction with
    | none => simp [hf] at hc
    | some digits =>
        simp only [hf, Option.elim_some, List.mem_cons] at hc
        rcases hc with rfl | hc
        · rfl
        · exact digit (h.fraction digits hf c hc)

theorem scanAll_plainText {n : Numeral} (h : n.IsPlain) :
    scanAll n.plainText = .ok [number (n.value.toBinary .double)] := by
  have part : ∀ c ∈ n.plainText, isNumberPart c := fun c => isNumberPart_of_mem_plainText h
  have read := Numeral.ofText?_plainText h
  obtain ⟨c, whole, hw⟩ := List.exists_cons_of_ne_nil h.whole_ne_nil
  have hc : c.isDigit := h.whole c (hw ▸ List.mem_cons_self)
  cases hn : n.negative with
  | true =>
      have text : n.plainText = '-' :: c :: (whole ++ n.fraction.elim [] ('.' :: ·)) := by
        simp [Numeral.plainText, Numeral.unsignedText, hn, hw]
      rw [text] at part read ⊢
      exact scanAll_number (by simp [startsNumber, hc])
        (fun d hd => part d (List.mem_cons_of_mem _ hd)) read
  | false =>
      have text : n.plainText = c :: (whole ++ n.fraction.elim [] ('.' :: ·)) := by
        simp [Numeral.plainText, Numeral.unsignedText, hn, hw]
      rw [text] at part read ⊢
      exact scanAll_number (by simp [startsNumber, hc])
        (fun d hd => part d (List.mem_cons_of_mem _ hd)) read

/-- A number that is written in full is the token of the number that it rounds to. -/
theorem scanAll_write (d : Decimal) :
    scanAll (Layout.plain.write d) = .ok [number (d.toBinary .double)] := by
  rw [Decimal.write_plain, scanAll_plainText d.numeral_isPlain, Decimal.toBinary_numeral]

end Winnow.Token
