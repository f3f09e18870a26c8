import Mathlib.Data.List.Forall2
import Winnow.Proofs.Predicate.Reading
import Winnow.Proofs.Predicate.Scanning
import Winnow.Query.Selection

/-!
The letters between brackets. A reader takes from them only which differences between texts are
overlooked. So letters in a text can be exchanged for others that mean the same: if the one text is
read, the other one is read as the same predicate, whatever stands around the letters.
-/

namespace Winnow

/-! ### Tokens that mean the same -/

namespace Token

/-- Tokens are the same, or letters from which the same is read. -/
inductive Alike : Token → Token → Prop where
  | refl (token : Token) : Alike token token
  | letters {codes others : String}
      (h : ∀ f, Input.foldingOf {} codes.toList = .ok f ↔
        Input.foldingOf {} others.toList = .ok f) :
      Alike (.options codes) (.options others)

def isOptions : Token → Bool
  | options _ => true
  | _ => false

theorem Alike.eq_of_left {token other : Token} (h : token.Alike other)
    (plain : token.isOptions = false) : other = token := by
  cases h with
  | refl => rfl
  | letters h => cases plain

theorem Alike.eq_of_right {token other : Token} (h : token.Alike other)
    (plain : other.isOptions = false) : token = other := by
  cases h with
  | refl => rfl
  | letters h => cases plain

end Token

namespace Input

/-- Letters with a bracket among them are not read. -/
theorem foldingOf_ne_ok {codes : List Char} (h : '[' ∈ codes) (f g : Folding) :
    foldingOf f codes ≠ .ok g := by
  fun_induction foldingOf f codes with
  | case1 => cases h
  | case2 f codes ih => exact ih (by simpa using h)
  | case3 f codes _ ih => exact ih (by simpa using h)
  | case4 f codes _ _ ih => exact ih (by simpa using h)
  | case5 => simp

/-- Inputs with the same arguments and tokens that mean the same. -/
structure Alike (i j : Input) : Prop where
  tokens : List.Forall₂ Token.Alike i.tokens j.tokens
  arguments : j.arguments = i.arguments

section Alike

variable {i j r : Input} {token : Token}

theorem StartsWith.exists_alike (h : i.StartsWith token r) (same : i.Alike j) :
    ∃ other s, token.Alike other ∧ r.Alike s ∧ j.StartsWith other s := by
  subst h
  obtain ⟨tokens, arguments⟩ := j
  obtain ⟨heads, rfl⟩ := same
  cases heads with
  | cons head tail => exact ⟨_, ⟨_, _⟩, head, ⟨tail, rfl⟩, rfl⟩

/-- A token that is no letters is found again. -/
theorem StartsWith.alike (h : i.StartsWith token r) (same : i.Alike j)
    (plain : token.isOptions = false) : ∃ s, r.Alike s ∧ j.StartsWith token s := by
  obtain ⟨other, s, head, tail, sign⟩ := h.exists_alike same
  obtain rfl := head.eq_of_left plain
  exact ⟨s, tail, sign⟩

theorem Alike.after?_eq_none (same : i.Alike j) (plain : token.isOptions = false)
    (h : i.after? token = none) : j.after? token = none := by
  obtain ⟨tokens, arguments⟩ := j
  obtain ⟨others, more⟩ := i
  obtain ⟨heads, -⟩ := same
  cases heads with
  | nil => rfl
  | cons head tail =>
      refine after?_of_startsWith_ne (startsWith_cons ..) ?_
      rintro rfl
      obtain rfl := head.eq_of_right plain
      simp [after?] at h

theorem ReadsFolding.alike {f : Folding} (h : ReadsFolding f i r) (same : i.Alike j) :
    ∃ s, r.Alike s ∧ ReadsFolding f j s := by
  cases h with
  | absent h =>
      refine ⟨j, same, .absent fun codes => ?_⟩
      obtain ⟨tokens, arguments⟩ := j
      obtain ⟨others, more⟩ := i
      obtain ⟨heads, -⟩ := same
      cases heads with
      | nil => rfl
      | cons head tail =>
          refine after?_of_startsWith_ne (startsWith_cons ..) ?_
          rintro rfl
          cases head <;> simp [after?] at h
  | letters h hf =>
      obtain ⟨other, s, head, tail, sign⟩ := h.exists_alike same
      cases head with
      | refl => exact ⟨s, tail, .letters sign hf⟩
      | letters mean => exact ⟨s, tail, .letters sign ((mean f).mp hf)⟩

theorem ReadsSteps.alike {steps : List String} (h : ReadsSteps steps i r) (same : i.Alike j) :
    ∃ s, r.Alike s ∧ ReadsSteps steps j s := by
  cases h with
  | absent h =>
      exact ⟨j, same, .absent fun text point => same.after?_eq_none rfl (h text point)⟩
  | path h point =>
      obtain ⟨s, tail, sign⟩ := h.alike same rfl
      exact ⟨s, tail, .path sign point⟩

theorem isOptions_of_relationOf {relation : Relation} (h : relationOf token = .ok relation) :
    token.isOptions = false := by
  cases token with
  | options codes => cases h
  | _ => rfl

/-- From tokens that mean the same, the same is read. -/
theorem Reads.alike {part : Part} (h : Reads part i r) (same : i.Alike j) :
    ∃ s, r.Alike s ∧ Reads part j s := by
  induction h generalizing j with
  | predicate _ _ first more =>
      obtain ⟨_, same, first⟩ := first same
      obtain ⟨s, same, more⟩ := more same
      exact ⟨s, same, .predicate first more⟩
  | alternative sign _ _ next more =>
      obtain ⟨_, same, sign⟩ := sign.alike same rfl
      obtain ⟨_, same, next⟩ := next same
      obtain ⟨s, same, more⟩ := more same
      exact ⟨s, same, .alternative sign next more⟩
  | lastAlternative h => exact ⟨j, same, .lastAlternative (same.after?_eq_none rfl h)⟩
  | conjunction _ _ first more =>
      obtain ⟨_, same, first⟩ := first same
      obtain ⟨s, same, more⟩ := more same
      exact ⟨s, same, .conjunction first more⟩
  | conjunct sign _ _ next more =>
      obtain ⟨_, same, sign⟩ := sign.alike same rfl
      obtain ⟨_, same, next⟩ := next same
      obtain ⟨s, same, more⟩ := more same
      exact ⟨s, same, .conjunct sign next more⟩
  | lastConjunct h => exact ⟨j, same, .lastConjunct (same.after?_eq_none rfl h)⟩
  | parentheses opening _ closing inner =>
      obtain ⟨_, same, opening⟩ := opening.alike same rfl
      obtain ⟨_, same, inner⟩ := inner same
      obtain ⟨s, same, closing⟩ := closing.alike same rfl
      exact ⟨s, same, .parentheses opening inner closing⟩
  | always h =>
      obtain ⟨s, same, sign⟩ := h.alike same rfl
      exact ⟨s, same, .always sign⟩
  | never h =>
      obtain ⟨s, same, sign⟩ := h.alike same rfl
      exact ⟨s, same, .never sign⟩
  | any sign _ inner =>
      obtain ⟨_, same, sign⟩ := sign.alike same rfl
      obtain ⟨s, same, inner⟩ := inner same
      exact ⟨s, same, .any sign inner⟩
  | plain h _ inner =>
      have free : ∀ token ∈ leads, token.isOptions = false := by decide
      obtain ⟨s, left, inner⟩ := inner same
      exact ⟨s, left, .plain (fun t ht => same.after?_eq_none (free t ht) (h t ht)) inner⟩
  | comparison _ sign hr letters _ first last =>
      obtain ⟨_, same, first⟩ := first same
      obtain ⟨_, same, sign⟩ := sign.alike same (isOptions_of_relationOf hr)
      obtain ⟨_, same, letters⟩ := letters.alike same
      obtain ⟨s, same, last⟩ := last same
      exact ⟨s, same, .comparison first sign hr letters last⟩
  | @placeholder value i r h =>
      obtain ⟨⟨tokens, _⟩, ⟨same, rfl⟩, sign⟩ := h.alike same rfl
      exact ⟨⟨tokens, r.arguments⟩, ⟨same, rfl⟩, .placeholder sign⟩
  | number h =>
      obtain ⟨s, same, sign⟩ := h.alike same rfl
      exact ⟨s, same, .number sign⟩
  | list opening _ _ closing head tail =>
      obtain ⟨_, same, opening⟩ := opening.alike same rfl
      obtain ⟨_, same, head⟩ := head same
      obtain ⟨_, same, tail⟩ := tail same
      obtain ⟨s, same, closing⟩ := closing.alike same rfl
      exact ⟨s, same, .list opening head tail closing⟩
  | path h hs =>
      obtain ⟨s, same, sign⟩ := h.alike same rfl
      exact ⟨s, same, .path sign hs⟩
  | subquery sign opening source comma₁ binder hn comma₂ _ closing suffix inner =>
      obtain ⟨_, same, sign⟩ := sign.alike same rfl
      obtain ⟨_, same, opening⟩ := opening.alike same rfl
      obtain ⟨_, same, source⟩ := source.alike same rfl
      obtain ⟨_, same, comma₁⟩ := comma₁.alike same rfl
      obtain ⟨_, same, binder⟩ := binder.alike same rfl
      obtain ⟨_, same, comma₂⟩ := comma₂.alike same rfl
      obtain ⟨_, same, inner⟩ := inner same
      obtain ⟨_, same, closing⟩ := closing.alike same rfl
      obtain ⟨s, same, suffix⟩ := suffix.alike same
      exact ⟨s, same, .subquery sign opening source comma₁ binder hn comma₂ inner closing suffix⟩
  | item sign _ _ head tail =>
      obtain ⟨_, same, sign⟩ := sign.alike same rfl
      obtain ⟨_, same, head⟩ := head same
      obtain ⟨s, same, tail⟩ := tail same
      exact ⟨s, same, .item sign head tail⟩
  | lastItem h => exact ⟨j, same, .lastItem (same.after?_eq_none rfl h)⟩

end Alike

end Input

/-! ### Texts that mean the same -/

namespace Token

def ScansAlike (a b : List Char) : Prop :=
  ∀ tokens, scanAll a = .ok tokens →
    ∃ others, scanAll b = .ok others ∧ List.Forall₂ Alike tokens others

theorem ScansAlike.refl (a : List Char) : ScansAlike a a := fun tokens h =>
  ⟨tokens, h, List.forall₂_same.mpr fun token _ => .refl token⟩

theorem ScansAlike.space {a b : List Char} (h : ScansAlike a b) :
    ScansAlike (' ' :: a) (' ' :: b) := by
  rw [ScansAlike, scanAll_space, scanAll_space]
  exact h

theorem ScansAlike.cons {c : Char} {rest a b : List Char} (space : c ≠ ' ')
    (first : Apart (c :: rest) a) (second : Apart (c :: rest) b)
    (closed : scan c rest ≠ .error .unterminatedOptions)
    (behind : ∀ more : List Char, more.length ≤ rest.length → ScansAlike (more ++ a) (more ++ b)) :
    ScansAlike (c :: (rest ++ a)) (c :: (rest ++ b)) := by
  intro tokens h
  rw [scanAll_cons space, scan_append first closed] at h
  rw [scanAll_cons space, scan_append second closed]
  obtain ⟨_, found, h⟩ := bind_eq_ok h
  obtain ⟨⟨token, more, shorter⟩, hs, rfl⟩ := map_eq_ok found
  obtain ⟨tail, ht, rfl⟩ := map_eq_ok h
  obtain ⟨others, scanned, same⟩ := behind more shorter tail ht
  refine ⟨token :: others, ?_, .cons (.refl token) same⟩
  simp only [hs, Except.map, Except.bind, goOn, scanned]

section Letters

variable {codes others back : List Char}

/-- Letters that mean the same at the front of a text. -/
theorem ScansAlike.letters (hc : ']' ∉ codes) (ho : ']' ∉ others)
    (mean : ∀ f, Input.foldingOf {} codes = .ok f ↔ Input.foldingOf {} others = .ok f) :
    ScansAlike ('[' :: (codes ++ ']' :: back)) ('[' :: (others ++ ']' :: back)) := by
  intro tokens h
  rw [scanAll_options hc] at h
  rw [scanAll_options ho]
  obtain ⟨behind, hb, rfl⟩ := map_eq_ok h
  rw [hb]
  refine ⟨_, rfl, .cons (.letters ?_) (List.forall₂_same.mpr fun token _ => .refl token)⟩
  rwa [String.toList_ofList, String.toList_ofList]

/-- A bracket that is left open in front is closed by that of the letters, and with a bracket among
them they are not read at all. -/
theorem ScansAlike.letters_of_open {front : List Char} (opened : ']' ∉ front) (hc : ']' ∉ codes)
    (ho : ']' ∉ others) :
    ScansAlike ('[' :: (front ++ '[' :: (codes ++ ']' :: back)))
      ('[' :: (front ++ '[' :: (others ++ ']' :: back))) := by
  have unread (codes : List Char) (f : Folding) :
      Input.foldingOf {} (front ++ '[' :: codes) ≠ .ok f :=
    Input.foldingOf_ne_ok (by simp) {} f
  have whole : ScansAlike ('[' :: ((front ++ '[' :: codes) ++ ']' :: back))
      ('[' :: ((front ++ '[' :: others) ++ ']' :: back)) :=
    .letters (by simp [opened, hc]) (by simp [opened, ho])
      fun f => iff_of_false (unread codes f) (unread others f)
  simpa [List.append_assoc] using whole

/-- A bracket that is left open is not closed later. -/
theorem not_mem_of_scan_unterminated {rest : List Char}
    (h : scan '[' rest = .error .unterminatedOptions) : ']' ∉ rest := by
  intro closed
  cases hd : rest.dropWhile (· != ']') with
  | nil => exact absurd rfl (bne_iff_ne.mp (List.dropWhile_eq_nil_iff.mp hd ']' closed))
  | cons d more =>
      obtain ⟨_, he⟩ := scan_options hd
      rw [he] at h
      cases h

/-- Letters can be exchanged for others that mean the same, whatever stands before them. -/
theorem scansAlike_letters (hc : ']' ∉ codes) (ho : ']' ∉ others)
    (mean : ∀ f, Input.foldingOf {} codes = .ok f ↔ Input.foldingOf {} others = .ok f)
    (front : List Char) :
    ScansAlike (front ++ '[' :: (codes ++ ']' :: back))
      (front ++ '[' :: (others ++ ']' :: back)) := by
  -- A token takes a number of characters, so the induction is on how many stand in front.
  induction hn : front.length using Nat.strongRecOn generalizing front with
  | ind n ih => ?_
  subst hn
  cases front with
  | nil => exact .letters hc ho mean
  | cons c rest =>
      by_cases space : c = ' '
      · subst space
        exact (ih rest.length (Nat.lt_succ_self _) rest rfl).space
      by_cases unterminated : scan c rest = .error .unterminatedOptions
      · obtain rfl := eq_bracket_of_scan unterminated
        exact .letters_of_open (not_mem_of_scan_unterminated unterminated) hc ho
      · have apart (codes : List Char) : Apart (c :: rest) ('[' :: (codes ++ ']' :: back)) := by
          refine .inr ?_
          rintro d ⟨⟩
          decide
        exact .cons space (apart codes) (apart others) unterminated fun more shorter =>
          ih more.length (Nat.lt_succ_of_le shorter) more rfl

end Letters

end Token

/-- A text is read as one that means the same. -/
theorem Predicate.ofText_of_scansAlike {a b : String} {arguments : List Argument} {p : Predicate}
    (same : Token.ScansAlike a.toList b.toList) (h : ofText a arguments = .ok p) :
    ofText b arguments = .ok p := by
  unfold ofText at h ⊢
  cases ht : Token.scanAll a.toList with
  | error e =>
      rw [ht] at h
      cases h
  | ok tokens =>
      rw [ht] at h
      obtain ⟨others, scanned, alike⟩ := same tokens ht
      rw [scanned]
      have inputs : Input.Alike ⟨tokens, Argument.toJsonItems arguments⟩
          ⟨others, Argument.toJsonItems arguments⟩ := ⟨alike, rfl⟩
      obtain ⟨⟨left, _⟩, ⟨nothing, rfl⟩, reads⟩ := (reads_of_ofTokens h).alike inputs
      cases nothing
      exact ofTokens_of_reads reads

end Winnow
