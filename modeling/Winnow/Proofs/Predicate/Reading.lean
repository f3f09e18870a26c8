import Winnow.Predicate.Reader
import Winnow.Proofs.Result

/-!
The readers of predicates as a judgement. `Reads part i r` says that a part of a query is read from
the front of `i` and that `r` is left after it. The readers and the judgement agree, so what holds
of every predicate that is read is proved by induction on the judgement, and a text is shown to be
read by a derivation.
-/

namespace Winnow.Input

/-- The first token of an input and what follows it. -/
def StartsWith (i : Input) (token : Token) (r : Input) : Prop :=
  i = ⟨token :: r.tokens, r.arguments⟩

theorem StartsWith.length_lt {i r : Input} {token : Token} (h : i.StartsWith token r) :
    r.length < i.length := by
  subst h
  simp [length]

theorem startsWith_cons (token : Token) (tokens : List Token) (arguments : List Json) :
    StartsWith ⟨token :: tokens, arguments⟩ token ⟨tokens, arguments⟩ := rfl

theorem startsWith_of_after? {i : Input} {token : Token} {r : Rest i.length}
    (h : i.after? token = some r) : i.StartsWith token r.val := by
  rcases i with ⟨_ | ⟨found, tokens⟩, arguments⟩
  · cases h
  · simp only [after?] at h
    split at h
    · next hf =>
        cases h
        simp [StartsWith, hf]
    · cases h

theorem after?_of_startsWith {i r : Input} {token : Token} (h : i.StartsWith token r) :
    ∃ hr, i.after? token = some ⟨r, hr⟩ := by
  subst h
  exact ⟨by simp [length], by simp [after?]⟩

theorem after?_of_startsWith_ne {i r : Input} {token other : Token} (h : i.StartsWith other r)
    (hne : other ≠ token) : i.after? token = none := by
  subst h
  simp [after?, hne]

theorem startsWith_of_next {i : Input} {token : Token} {r : Rest i.length}
    (h : i.next = .ok (token, r)) : i.StartsWith token r.val := by
  rcases i with ⟨_ | ⟨found, tokens⟩, arguments⟩
  · cases h
  · cases h
    rfl

theorem next_of_startsWith {i r : Input} {token : Token} (h : i.StartsWith token r) :
    ∃ hr, i.next = .ok (token, ⟨r, hr⟩) := by
  subst h
  exact ⟨by simp [length], rfl⟩

theorem startsWith_of_expect {i : Input} {token : Token} {r : Rest i.length}
    (h : i.expect token = .ok r) : i.StartsWith token r.val := by
  unfold expect at h
  split at h
  · cases h
  · next hn =>
      split at h
      · next hf =>
          cases h
          exact hf ▸ startsWith_of_next hn
      · cases h

theorem expect_of_startsWith {i r : Input} {token : Token} (h : i.StartsWith token r) :
    ∃ hr, i.expect token = .ok ⟨r, hr⟩ := by
  obtain ⟨hr, hn⟩ := next_of_startsWith h
  exact ⟨hr, by simp [expect, hn]⟩

theorem startsWith_of_readCollection {i : Input} {steps : List String} {r : Rest i.length}
    (h : i.readCollection = .ok (steps, r)) :
    ∃ text, steps = pathSteps text ∧ i.StartsWith (.word text) r.val := by
  unfold readCollection at h
  split at h
  · cases h
  · next hn =>
      cases h
      exact ⟨_, rfl, startsWith_of_next hn⟩
  · cases h

theorem readCollection_of_startsWith {i r : Input} {text : String}
    (h : i.StartsWith (.word text) r) : ∃ hr, i.readCollection = .ok (pathSteps text, ⟨r, hr⟩) := by
  obtain ⟨hr, hn⟩ := next_of_startsWith h
  exact ⟨hr, by simp [readCollection, hn]⟩

theorem startsWith_of_readVariable {i : Input} {name : String} {r : Rest i.length}
    (h : i.readVariable = .ok (name, r)) :
    name.toList.head? = some '$' ∧ i.StartsWith (.word name) r.val := by
  unfold readVariable at h
  split at h
  · cases h
  · next hn =>
      split at h
      · next hd =>
          cases h
          exact ⟨hd, startsWith_of_next hn⟩
      · cases h
  · cases h

theorem readVariable_of_startsWith {i r : Input} {name : String}
    (h : i.StartsWith (.word name) r) (hd : name.toList.head? = some '$') :
    ∃ hr, i.readVariable = .ok (name, ⟨r, hr⟩) := by
  obtain ⟨hr, hn⟩ := next_of_startsWith h
  exact ⟨hr, by simp [readVariable, hn, hd]⟩

/-- The letters at the front of an input, if there are any, and what follows them. -/
inductive ReadsFolding : Folding → Input → Input → Prop where
  | absent {i : Input} (h : ∀ codes, i.after? (.options codes) = none) : ReadsFolding {} i i
  | letters {codes f i r} (h : i.StartsWith (.options codes) r)
      (hf : foldingOf {} codes.toList = .ok f) : ReadsFolding f i r

theorem ReadsFolding.length_le {i r : Input} {f : Folding} (h : ReadsFolding f i r) :
    r.length ≤ i.length := by
  cases h with
  | absent h => exact Nat.le_refl _
  | letters h hf => exact Nat.le_of_lt h.length_lt

theorem readsFolding_of_ok {i : Input} {f : Folding} {r : { r : Input // r.length ≤ i.length }}
    (h : i.readFolding = .ok (f, r)) : ReadsFolding f i r.val := by
  rcases i with ⟨_ | ⟨token, tokens⟩, arguments⟩
  · cases h
    exact .absent (by simp [after?])
  · cases token with
    | options codes =>
        simp only [readFolding] at h
        split at h
        · cases h
        · next hf =>
            cases h
            exact .letters rfl hf
    | _ =>
        cases h
        exact .absent (by simp [after?])

theorem readFolding_of_reads {i r : Input} {f : Folding} (h : ReadsFolding f i r) :
    ∃ hr, i.readFolding = .ok (f, ⟨r, hr⟩) := by
  cases h with
  | absent h =>
      rcases i with ⟨_ | ⟨token, tokens⟩, arguments⟩
      · exact ⟨_, rfl⟩
      · cases token with
        | options codes => simpa [after?] using h codes
        | _ => exact ⟨_, rfl⟩
  | letters h hf =>
      subst h
      exact ⟨by simp [length], by simp [readFolding, hf]⟩

/-- The path after a subquery, if there is one, and what follows it. -/
inductive ReadsSteps : List String → Input → Input → Prop where
  | absent {i : Input}
      (h : ∀ text, text.toList.head? = some '.' → i.after? (.word text) = none) :
      ReadsSteps [] i i
  | path {text i r} (h : i.StartsWith (.word text) r) (point : text.toList.head? = some '.') :
      ReadsSteps (pathSteps (String.ofList (text.toList.drop 1))) i r

theorem readsSteps_readSteps {i : Input} : ReadsSteps i.readSteps.1 i i.readSteps.2.val := by
  rcases i with ⟨_ | ⟨token, tokens⟩, arguments⟩
  · exact .absent (by simp [after?])
  · cases token with
    | word text =>
        by_cases point : text.toList.head? = some '.'
        · have read : readSteps ⟨.word text :: tokens, arguments⟩ =
              (pathSteps (String.ofList (text.toList.drop 1)),
                ⟨⟨tokens, arguments⟩, by simp [length]⟩) := if_pos point
          simp only [read]
          exact .path rfl point
        · have read : readSteps ⟨.word text :: tokens, arguments⟩ =
              ([], ⟨⟨.word text :: tokens, arguments⟩, Nat.le_refl _⟩) := if_neg point
          simp only [read]
          refine .absent ?_
          rintro other ho
          have hne : text ≠ other := by
            rintro rfl
            exact point ho
          simp [after?, hne]
    | _ => exact .absent (by simp [after?])

theorem readSteps_of_reads {i r : Input} {steps : List String} (h : ReadsSteps steps i r) :
    ∃ hr, i.readSteps = (steps, ⟨r, hr⟩) := by
  cases h with
  | absent h =>
      rcases i with ⟨_ | ⟨token, tokens⟩, arguments⟩
      · exact ⟨_, rfl⟩
      · cases token with
        | word text =>
            have : text.toList.head? ≠ some '.' := fun hp => by simpa [after?] using h text hp
            exact ⟨Nat.le_refl _, by simp [readSteps, this]⟩
        | _ => exact ⟨_, rfl⟩
  | path h point =>
      subst h
      exact ⟨by simp [length], by simp [readSteps, point]⟩

/-- What the readers of predicates read. A reader of more takes what was read before it. -/
inductive Part where
  | predicate (p : Predicate)
  | alternatives (left p : Predicate)
  | conjunction (p : Predicate)
  | conjuncts (left p : Predicate)
  | primary (p : Predicate)
  | comparison (any : Bool) (p : Predicate)
  | expression (e : Expression)
  | items (es : List Expression)

/-- The tokens that a predicate without parentheses, a constant or `ANY` begins with. -/
def leads : List Token :=
  [.openParen, .word "TRUEPREDICATE", .word "FALSEPREDICATE", .word "ANY"]

/-- What a part of a query is read from and what is left after it. Each reader has the constructors
that its cases are. -/
inductive Reads : Part → Input → Input → Prop where
  | predicate {left p i r s} (first : Reads (.conjunction left) i r)
      (more : Reads (.alternatives left p) r s) : Reads (.predicate p) i s
  | alternative {left right p i r s t} (sign : i.StartsWith (.word "OR") r)
      (next : Reads (.conjunction right) r s)
      (more : Reads (.alternatives (.or left right) p) s t) : Reads (.alternatives left p) i t
  | lastAlternative {left i} (h : i.after? (.word "OR") = none) :
      Reads (.alternatives left left) i i
  | conjunction {left p i r s} (first : Reads (.primary left) i r)
      (more : Reads (.conjuncts left p) r s) : Reads (.conjunction p) i s
  | conjunct {left right p i r s t} (sign : i.StartsWith (.word "AND") r)
      (next : Reads (.primary right) r s)
      (more : Reads (.conjuncts (.and left right) p) s t) : Reads (.conjuncts left p) i t
  | lastConjunct {left i} (h : i.after? (.word "AND") = none) : Reads (.conjuncts left left) i i
  | parentheses {p i r s t} (opening : i.StartsWith .openParen r)
      (inner : Reads (.predicate p) r s) (closing : s.StartsWith .closeParen t) :
      Reads (.primary p) i t
  | always {i r} (h : i.StartsWith (.word "TRUEPREDICATE") r) :
      Reads (.primary (.constant true)) i r
  | never {i r} (h : i.StartsWith (.word "FALSEPREDICATE") r) :
      Reads (.primary (.constant false)) i r
  | any {p i r s} (sign : i.StartsWith (.word "ANY") r) (inner : Reads (.comparison true p) r s) :
      Reads (.primary p) i s
  | plain {p i r} (h : ∀ token ∈ leads, i.after? token = none)
      (inner : Reads (.comparison false p) i r) : Reads (.primary p) i r
  | comparison {any left relation folding right token i r s t u}
      (first : Reads (.expression left) i r) (sign : r.StartsWith token s)
      (hr : relationOf token = .ok relation) (letters : ReadsFolding folding s t)
      (last : Reads (.expression right) t u) :
      Reads (.comparison any (.compare any left relation folding right)) i u
  | placeholder {value i r} (h : i.StartsWith .placeholder ⟨r.tokens, value :: r.arguments⟩) :
      Reads (.expression (.value value)) i r
  | number {x i r} (h : i.StartsWith (.number x) r) :
      Reads (.expression (.value (.ofDouble x))) i r
  | list {first others i r s t u} (opening : i.StartsWith .openBrace r)
      (head : Reads (.expression first) r s) (tail : Reads (.items others) s t)
      (closing : t.StartsWith .closeBrace u) : Reads (.expression (.list (first :: others))) i u
  | path {text i r} (h : i.StartsWith (.word text) r) (hs : text ≠ "SUBQUERY") :
      Reads (.expression (.path (pathSteps text))) i r
  | subquery {collection name body steps i r₀ r₁ r₂ r₃ r₄ r₅ r₆ r₇ r₈}
      (sign : i.StartsWith (.word "SUBQUERY") r₀) (opening : r₀.StartsWith .openParen r₁)
      (source : r₁.StartsWith (.word collection) r₂) (comma₁ : r₂.StartsWith .comma r₃)
      (binder : r₃.StartsWith (.word name) r₄) (hn : name.toList.head? = some '$')
      (comma₂ : r₄.StartsWith .comma r₅) (inner : Reads (.predicate body) r₅ r₆)
      (closing : r₆.StartsWith .closeParen r₇) (suffix : ReadsSteps steps r₇ r₈) :
      Reads (.expression (.subquery (pathSteps collection) name body steps)) i r₈
  | item {first others i r s t} (sign : i.StartsWith .comma r)
      (head : Reads (.expression first) r s) (tail : Reads (.items others) s t) :
      Reads (.items (first :: others)) i t
  | lastItem {i} (h : i.after? .comma = none) : Reads (.items []) i i

/-- The reader of a part returns the part and what is left. -/
def Returns (i r : Input) : Part → Prop
  | .predicate p => ∃ h, i.readPredicate = .ok (p, ⟨r, h⟩)
  | .alternatives left p => ∃ h, i.readAlternatives left = .ok (p, ⟨r, h⟩)
  | .conjunction p => ∃ h, i.readConjunction = .ok (p, ⟨r, h⟩)
  | .conjuncts left p => ∃ h, i.readConjuncts left = .ok (p, ⟨r, h⟩)
  | .primary p => ∃ h, i.readPrimary = .ok (p, ⟨r, h⟩)
  | .comparison any p => ∃ h, i.readComparison any = .ok (p, ⟨r, h⟩)
  | .expression e => ∃ h, i.readExpression = .ok (e, ⟨r, h⟩)
  | .items es => ∃ h, i.readItems = .ok (es, ⟨r, h⟩)

/-! ### One call of each reader -/

section Returns

variable {i r s : Input} {p left : Predicate} {e : Expression}

theorem returns_predicate : Returns i r (.predicate p) ↔
    ∃ left s, Returns i s (.conjunction left) ∧ Returns s r (.alternatives left p) := by
  constructor
  · rintro ⟨hr, h⟩
    rw [readPredicate] at h
    obtain ⟨⟨left, s, h₁⟩, first, h⟩ := bind_eq_ok h
    obtain ⟨⟨q, t, h₂⟩, more, h⟩ := bind_eq_ok h
    cases h
    exact ⟨left, s, ⟨h₁, first⟩, ⟨h₂, more⟩⟩
  · rintro ⟨left, s, ⟨h₁, first⟩, ⟨h₂, more⟩⟩
    refine ⟨by omega, ?_⟩
    rw [readPredicate, first]
    dsimp only [bind, Except.bind]
    rw [more]
    rfl

theorem returns_alternatives : Returns i r (.alternatives left p) ↔
    (i.after? (.word "OR") = none ∧ p = left ∧ r = i) ∨
      ∃ right s t, i.StartsWith (.word "OR") s ∧ Returns s t (.conjunction right) ∧
        Returns t r (.alternatives (.or left right) p) := by
  constructor
  · rintro ⟨hr, h⟩
    rw [readAlternatives] at h
    split at h
    · next hn =>
        cases h
        exact .inl ⟨hn, rfl, rfl⟩
    · next s h₁ hs =>
        obtain ⟨⟨right, t, h₂⟩, next, h⟩ := bind_eq_ok h
        obtain ⟨⟨q, u, h₃⟩, more, h⟩ := bind_eq_ok h
        cases h
        exact .inr ⟨right, s, t, startsWith_of_after? hs, ⟨h₂, next⟩, ⟨h₃, more⟩⟩
  · rintro (⟨hn, rfl, rfl⟩ | ⟨right, s, t, sign, ⟨h₂, next⟩, ⟨h₃, more⟩⟩)
    · refine ⟨by omega, ?_⟩
      rw [readAlternatives, hn]
    · obtain ⟨h₁, sign⟩ := after?_of_startsWith sign
      refine ⟨by omega, ?_⟩
      rw [readAlternatives, sign]
      dsimp only [bind, Except.bind]
      rw [next]
      dsimp only
      rw [more]
      rfl

theorem returns_conjunction : Returns i r (.conjunction p) ↔
    ∃ left s, Returns i s (.primary left) ∧ Returns s r (.conjuncts left p) := by
  constructor
  · rintro ⟨hr, h⟩
    rw [readConjunction] at h
    obtain ⟨⟨left, s, h₁⟩, first, h⟩ := bind_eq_ok h
    obtain ⟨⟨q, t, h₂⟩, more, h⟩ := bind_eq_ok h
    cases h
    exact ⟨left, s, ⟨h₁, first⟩, ⟨h₂, more⟩⟩
  · rintro ⟨left, s, ⟨h₁, first⟩, ⟨h₂, more⟩⟩
    refine ⟨by omega, ?_⟩
    rw [readConjunction, first]
    dsimp only [bind, Except.bind]
    rw [more]
    rfl

theorem returns_conjuncts : Returns i r (.conjuncts left p) ↔
    (i.after? (.word "AND") = none ∧ p = left ∧ r = i) ∨
      ∃ right s t, i.StartsWith (.word "AND") s ∧ Returns s t (.primary right) ∧
        Returns t r (.conjuncts (.and left right) p) := by
  constructor
  · rintro ⟨hr, h⟩
    rw [readConjuncts] at h
    split at h
    · next hn =>
        cases h
        exact .inl ⟨hn, rfl, rfl⟩
    · next s h₁ hs =>
        obtain ⟨⟨right, t, h₂⟩, next, h⟩ := bind_eq_ok h
        obtain ⟨⟨q, u, h₃⟩, more, h⟩ := bind_eq_ok h
        cases h
        exact .inr ⟨right, s, t, startsWith_of_after? hs, ⟨h₂, next⟩, ⟨h₃, more⟩⟩
  · rintro (⟨hn, rfl, rfl⟩ | ⟨right, s, t, sign, ⟨h₂, next⟩, ⟨h₃, more⟩⟩)
    · refine ⟨by omega, ?_⟩
      rw [readConjuncts, hn]
    · obtain ⟨h₁, sign⟩ := after?_of_startsWith sign
      refine ⟨by omega, ?_⟩
      rw [readConjuncts, sign]
      dsimp only [bind, Except.bind]
      rw [next]
      dsimp only
      rw [more]
      rfl

/-- What a primary predicate can be. -/
inductive ReturnsPrimary (i r : Input) : Predicate → Prop where
  | parentheses {q t u} (opening : i.StartsWith .openParen t)
      (inner : Returns t u (.predicate q)) (closing : u.StartsWith .closeParen r) :
      ReturnsPrimary i r q
  | always (h : i.StartsWith (.word "TRUEPREDICATE") r) : ReturnsPrimary i r (.constant true)
  | never (h : i.StartsWith (.word "FALSEPREDICATE") r) : ReturnsPrimary i r (.constant false)
  | any {q t} (sign : i.StartsWith (.word "ANY") t) (inner : Returns t r (.comparison true q)) :
      ReturnsPrimary i r q
  | plain {q} (h : ∀ token ∈ leads, i.after? token = none)
      (inner : Returns i r (.comparison false q)) : ReturnsPrimary i r q

theorem returns_primary : Returns i r (.primary p) ↔ ReturnsPrimary i r p := by
  constructor
  · rintro ⟨hr, h⟩
    rw [readPrimary] at h
    split at h
    · next s h₁ opening =>
        obtain ⟨⟨q, t, h₂⟩, inner, h⟩ := bind_eq_ok h
        obtain ⟨⟨u, h₃⟩, closing, h⟩ := bind_eq_ok h
        cases h
        exact .parentheses (startsWith_of_after? opening) ⟨h₂, inner⟩
          (startsWith_of_expect closing)
    next hp =>
    split at h
    · next sign =>
        cases h
        exact .always (startsWith_of_after? sign)
    next ht =>
    split at h
    · next sign =>
        cases h
        exact .never (startsWith_of_after? sign)
    next hf =>
    split at h
    · next s h₁ sign =>
        obtain ⟨⟨q, t, h₂⟩, inner, h⟩ := bind_eq_ok h
        cases h
        exact .any (startsWith_of_after? sign) ⟨h₂, inner⟩
    · next ha => exact .plain (by simp [leads, hp, ht, hf, ha]) ⟨hr, h⟩
  · intro h
    cases h with
    | parentheses opening inner closing =>
        obtain ⟨h₁, opening⟩ := after?_of_startsWith opening
        obtain ⟨h₂, inner⟩ := inner
        obtain ⟨h₃, closing⟩ := expect_of_startsWith closing
        refine ⟨by omega, ?_⟩
        rw [readPrimary, opening]
        dsimp only [bind, Except.bind]
        rw [inner]
        dsimp only
        rw [closing]
        rfl
    | always h =>
        obtain ⟨hr, sign⟩ := after?_of_startsWith h
        refine ⟨hr, ?_⟩
        rw [readPrimary, after?_of_startsWith_ne h (by simp), sign]
    | never h =>
        obtain ⟨hr, sign⟩ := after?_of_startsWith h
        refine ⟨hr, ?_⟩
        rw [readPrimary, after?_of_startsWith_ne h (by simp),
          after?_of_startsWith_ne h (by simp), sign]
    | any h inner =>
        obtain ⟨h₁, sign⟩ := after?_of_startsWith h
        obtain ⟨h₂, inner⟩ := inner
        refine ⟨by omega, ?_⟩
        rw [readPrimary, after?_of_startsWith_ne h (by simp),
          after?_of_startsWith_ne h (by simp), after?_of_startsWith_ne h (by simp), sign]
        dsimp only [bind, Except.bind]
        rw [inner]
        rfl
    | plain h inner =>
        obtain ⟨h₁, inner⟩ := inner
        refine ⟨h₁, ?_⟩
        rw [readPrimary, h _ (by simp [leads]), h _ (by simp [leads]), h _ (by simp [leads]),
          h _ (by simp [leads])]
        exact inner

theorem returns_comparison {any : Bool} : Returns i r (.comparison any p) ↔
    ∃ left relation folding right token s t u,
      p = .compare any left relation folding right ∧ Returns i s (.expression left) ∧
      s.StartsWith token t ∧ relationOf token = .ok relation ∧ ReadsFolding folding t u ∧
      Returns u r (.expression right) := by
  constructor
  · rintro ⟨hr, h⟩
    rw [readComparison] at h
    obtain ⟨⟨left, s, h₁⟩, first, h⟩ := bind_eq_ok h
    obtain ⟨⟨token, t, h₂⟩, sign, h⟩ := bind_eq_ok h
    obtain ⟨relation, hrel, h⟩ := bind_eq_ok h
    obtain ⟨⟨folding, u, h₃⟩, letters, h⟩ := bind_eq_ok h
    obtain ⟨⟨right, v, h₄⟩, last, h⟩ := bind_eq_ok h
    cases h
    exact ⟨left, relation, folding, right, token, s, t, u, rfl, ⟨h₁, first⟩,
      startsWith_of_next sign, hrel, readsFolding_of_ok letters, ⟨h₄, last⟩⟩
  · rintro ⟨left, relation, folding, right, token, s, t, u, rfl, ⟨h₁, first⟩, sign, hrel,
      letters, ⟨h₄, last⟩⟩
    obtain ⟨h₂, sign⟩ := next_of_startsWith sign
    obtain ⟨h₃, letters⟩ := readFolding_of_reads letters
    refine ⟨by omega, ?_⟩
    rw [readComparison, first]
    dsimp only [bind, Except.bind]
    rw [sign]
    dsimp only
    rw [hrel]
    dsimp only
    rw [letters]
    dsimp only
    rw [last]
    rfl

theorem exists_startsWith_of_returns (h : Returns i r (.expression e)) :
    ∃ token s, i.StartsWith token s := by
  obtain ⟨hr, h⟩ := h
  rw [readExpression] at h
  obtain ⟨⟨token, s, h₁⟩, sign, h⟩ := bind_eq_ok h
  exact ⟨token, s, startsWith_of_next sign⟩

theorem returns_placeholder (h : i.StartsWith .placeholder s) :
    Returns i r (.expression e) ↔
      ∃ value, e = .value value ∧ s = ⟨r.tokens, value :: r.arguments⟩ := by
  subst h
  constructor
  · rintro ⟨hr, h⟩
    rw [readExpression] at h
    rcases s with ⟨tokens, _ | ⟨value, arguments⟩⟩
    · cases h
    · cases h
      exact ⟨value, rfl, rfl⟩
  · rintro ⟨value, rfl, rfl⟩
    refine ⟨by simp [length], ?_⟩
    rw [readExpression]
    rfl

theorem returns_number {x : Double} (h : i.StartsWith (.number x) s) :
    Returns i r (.expression e) ↔ e = .value (.ofDouble x) ∧ r = s := by
  subst h
  constructor
  · rintro ⟨hr, h⟩
    rw [readExpression] at h
    cases h
    exact ⟨rfl, rfl⟩
  · rintro ⟨rfl, rfl⟩
    refine ⟨by simp [length], ?_⟩
    rw [readExpression]
    rfl

theorem returns_list (h : i.StartsWith .openBrace s) :
    Returns i r (.expression e) ↔
      ∃ first others t u, e = .list (first :: others) ∧ Returns s t (.expression first) ∧
        Returns t u (.items others) ∧ u.StartsWith .closeBrace r := by
  obtain ⟨h₁, opening⟩ := next_of_startsWith h
  constructor
  · rintro ⟨hr, h⟩
    rw [readExpression, opening] at h
    obtain ⟨_, ⟨⟩, h⟩ := bind_eq_ok h
    obtain ⟨⟨first, t, h₂⟩, head, h⟩ := bind_eq_ok h
    obtain ⟨⟨others, u, h₃⟩, tail, h⟩ := bind_eq_ok h
    obtain ⟨⟨v, h₄⟩, closing, h⟩ := bind_eq_ok h
    cases h
    exact ⟨first, others, t, u, rfl, ⟨h₂, head⟩, ⟨h₃, tail⟩, startsWith_of_expect closing⟩
  · rintro ⟨first, others, t, u, rfl, ⟨h₂, head⟩, ⟨h₃, tail⟩, closing⟩
    obtain ⟨h₄, closing⟩ := expect_of_startsWith closing
    refine ⟨by omega, ?_⟩
    rw [readExpression, opening]
    dsimp only [bind, Except.bind]
    rw [head]
    dsimp only
    rw [tail]
    dsimp only
    rw [closing]
    rfl

theorem returns_path {text : String} (h : i.StartsWith (.word text) s) (hs : text ≠ "SUBQUERY") :
    Returns i r (.expression e) ↔ e = .path (pathSteps text) ∧ r = s := by
  obtain ⟨h₁, sign⟩ := next_of_startsWith h
  constructor
  · rintro ⟨hr, h⟩
    rw [readExpression, sign] at h
    dsimp only [bind, Except.bind] at h
    rw [if_neg hs] at h
    cases h
    exact ⟨rfl, rfl⟩
  · rintro ⟨rfl, rfl⟩
    refine ⟨h₁, ?_⟩
    rw [readExpression, sign]
    dsimp only [bind, Except.bind]
    rw [if_neg hs]
    rfl

theorem returns_subquery (h : i.StartsWith (.word "SUBQUERY") s) :
    Returns i r (.expression e) ↔
      ∃ collection name body steps s₁ s₂ s₃ s₄ s₅ s₆ s₇,
        e = .subquery (pathSteps collection) name body steps ∧ s.StartsWith .openParen s₁ ∧
        s₁.StartsWith (.word collection) s₂ ∧ s₂.StartsWith .comma s₃ ∧
        s₃.StartsWith (.word name) s₄ ∧ name.toList.head? = some '$' ∧
        s₄.StartsWith .comma s₅ ∧ Returns s₅ s₆ (.predicate body) ∧
        s₆.StartsWith .closeParen s₇ ∧ ReadsSteps steps s₇ r := by
  obtain ⟨h₀, sign⟩ := next_of_startsWith h
  constructor
  · rintro ⟨hr, h⟩
    rw [readExpression, sign] at h
    obtain ⟨_, ⟨⟩, h⟩ := bind_eq_ok h
    dsimp only at h
    rw [if_pos rfl] at h
    obtain ⟨⟨s₁, h₁⟩, opening, h⟩ := bind_eq_ok h
    obtain ⟨⟨collection, s₂, h₂⟩, source, h⟩ := bind_eq_ok h
    obtain ⟨⟨s₃, h₃⟩, comma₁, h⟩ := bind_eq_ok h
    obtain ⟨⟨name, s₄, h₄⟩, binder, h⟩ := bind_eq_ok h
    obtain ⟨⟨s₅, h₅⟩, comma₂, h⟩ := bind_eq_ok h
    obtain ⟨⟨body, s₆, h₆⟩, inner, h⟩ := bind_eq_ok h
    obtain ⟨⟨s₇, h₇⟩, closing, h⟩ := bind_eq_ok h
    cases h
    obtain ⟨text, rfl, collection⟩ := startsWith_of_readCollection source
    obtain ⟨hn, binder⟩ := startsWith_of_readVariable binder
    exact ⟨text, name, body, _, s₁, s₂, s₃, s₄, s₅, s₆, s₇, rfl, startsWith_of_expect opening,
      collection, startsWith_of_expect comma₁, binder, hn, startsWith_of_expect comma₂,
      ⟨h₆, inner⟩, startsWith_of_expect closing, readsSteps_readSteps⟩
  · rintro ⟨collection, name, body, steps, s₁, s₂, s₃, s₄, s₅, s₆, s₇, rfl, opening, source,
      comma₁, binder, hn, comma₂, ⟨h₆, inner⟩, closing, suffix⟩
    obtain ⟨h₁, opening⟩ := expect_of_startsWith opening
    obtain ⟨h₂, source⟩ := readCollection_of_startsWith source
    obtain ⟨h₃, comma₁⟩ := expect_of_startsWith comma₁
    obtain ⟨h₄, binder⟩ := readVariable_of_startsWith binder hn
    obtain ⟨h₅, comma₂⟩ := expect_of_startsWith comma₂
    obtain ⟨h₇, closing⟩ := expect_of_startsWith closing
    obtain ⟨h₈, suffix⟩ := readSteps_of_reads suffix
    refine ⟨by omega, ?_⟩
    rw [readExpression, sign]
    dsimp only [bind, Except.bind]
    rw [if_pos rfl, opening]
    dsimp only
    rw [source]
    dsimp only
    rw [comma₁]
    dsimp only
    rw [binder]
    dsimp only
    rw [comma₂]
    dsimp only
    rw [inner]
    dsimp only
    rw [closing]
    dsimp only
    rw [suffix]
    rfl

theorem returns_items {es : List Expression} : Returns i r (.items es) ↔
    (i.after? .comma = none ∧ es = [] ∧ r = i) ∨
      ∃ first others s t, es = first :: others ∧ i.StartsWith .comma s ∧
        Returns s t (.expression first) ∧ Returns t r (.items others) := by
  constructor
  · rintro ⟨hr, h⟩
    rw [readItems] at h
    split at h
    · next hn =>
        cases h
        exact .inl ⟨hn, rfl, rfl⟩
    · next s h₁ sign =>
        obtain ⟨⟨first, t, h₂⟩, head, h⟩ := bind_eq_ok h
        obtain ⟨⟨others, u, h₃⟩, tail, h⟩ := bind_eq_ok h
        cases h
        exact .inr ⟨first, others, s, t, rfl, startsWith_of_after? sign, ⟨h₂, head⟩, ⟨h₃, tail⟩⟩
  · rintro (⟨hn, rfl, rfl⟩ | ⟨first, others, s, t, rfl, sign, ⟨h₂, head⟩, ⟨h₃, tail⟩⟩)
    · refine ⟨by omega, ?_⟩
      rw [readItems, hn]
    · obtain ⟨h₁, sign⟩ := after?_of_startsWith sign
      refine ⟨by omega, ?_⟩
      rw [readItems, sign]
      dsimp only [bind, Except.bind]
      rw [head]
      dsimp only
      rw [tail]
      rfl

end Returns

/-! ### Readers and rules -/

/-- How far a reader is from the tokens themselves. -/
def Part.rank : Part → Nat
  | predicate _ => 4
  | conjunction _ => 3
  | primary _ => 2
  | comparison _ _ => 1
  | _ => 0

/-- Every reader reads what the rules say. -/
theorem reads_of_returns {i r : Input} {part : Part} (h : Returns i r part) : Reads part i r := by
  -- A reader calls one of a lower rank on the same tokens, or any reader on fewer tokens.
  induction hn : 5 * i.length + part.rank using Nat.strongRecOn generalizing i r part with
  | ind n ih => ?_
  subst hn
  have reads {j s : Input} {q : Part} (less : 5 * j.length + q.rank < 5 * i.length + part.rank)
      (h : Returns j s q) : Reads q j s := ih _ less h rfl
  cases part with
  | predicate p =>
      obtain ⟨left, s, ⟨h₁, first⟩, more⟩ := returns_predicate.mp h
      exact .predicate (reads (by simp only [Part.rank]; omega) ⟨h₁, first⟩)
        (reads (by simp only [Part.rank]; omega) more)
  | alternatives left p =>
      rcases returns_alternatives.mp h with ⟨hn, rfl, rfl⟩ | ⟨right, s, t, sign, ⟨h₂, next⟩, more⟩
      · exact .lastAlternative hn
      · have h₁ := sign.length_lt
        exact .alternative sign (reads (by simp only [Part.rank]; omega) ⟨h₂, next⟩)
          (reads (by simp only [Part.rank]; omega) more)
  | conjunction p =>
      obtain ⟨left, s, ⟨h₁, first⟩, more⟩ := returns_conjunction.mp h
      exact .conjunction (reads (by simp only [Part.rank]; omega) ⟨h₁, first⟩)
        (reads (by simp only [Part.rank]; omega) more)
  | conjuncts left p =>
      rcases returns_conjuncts.mp h with ⟨hn, rfl, rfl⟩ | ⟨right, s, t, sign, ⟨h₂, next⟩, more⟩
      · exact .lastConjunct hn
      · have h₁ := sign.length_lt
        exact .conjunct sign (reads (by simp only [Part.rank]; omega) ⟨h₂, next⟩)
          (reads (by simp only [Part.rank]; omega) more)
  | primary p =>
      cases returns_primary.mp h with
      | parentheses opening inner closing =>
          have h₁ := opening.length_lt
          exact .parentheses opening (reads (by simp only [Part.rank]; omega) inner) closing
      | always sign => exact .always sign
      | never sign => exact .never sign
      | any sign inner =>
          have h₁ := sign.length_lt
          exact .any sign (reads (by simp only [Part.rank]; omega) inner)
      | plain hn inner => exact .plain hn (reads (by simp only [Part.rank]; omega) inner)
  | comparison any p =>
      obtain ⟨left, relation, folding, right, token, s, t, u, rfl, ⟨h₁, first⟩, sign, hr, letters,
        last⟩ := returns_comparison.mp h
      have h₂ := sign.length_lt
      have h₃ := letters.length_le
      exact .comparison (reads (by simp only [Part.rank]; omega) ⟨h₁, first⟩) sign hr letters
        (reads (by simp only [Part.rank]; omega) last)
  | expression e =>
      obtain ⟨token, s, sign⟩ := exists_startsWith_of_returns h
      have h₁ := sign.length_lt
      cases token with
      | placeholder =>
          obtain ⟨value, rfl, rfl⟩ := (returns_placeholder sign).mp h
          exact .placeholder sign
      | number x =>
          obtain ⟨rfl, rfl⟩ := (returns_number sign).mp h
          exact .number sign
      | openBrace =>
          obtain ⟨first, others, t, u, rfl, ⟨h₂, head⟩, tail, closing⟩ := (returns_list sign).mp h
          exact .list sign (reads (by simp only [Part.rank]; omega) ⟨h₂, head⟩)
            (reads (by simp only [Part.rank]; omega) tail) closing
      | word text =>
          by_cases hs : text = "SUBQUERY"
          · subst hs
            obtain ⟨collection, name, body, steps, s₁, s₂, s₃, s₄, s₅, s₆, s₇, rfl, opening, source,
              comma₁, binder, hn, comma₂, inner, closing, suffix⟩ := (returns_subquery sign).mp h
            have shorter : s₅.length < i.length :=
              calc s₅.length < s₄.length := comma₂.length_lt
                _ < s₃.length := binder.length_lt
                _ < s₂.length := comma₁.length_lt
                _ < s₁.length := source.length_lt
                _ < s.length := opening.length_lt
                _ < i.length := h₁
            exact .subquery sign opening source comma₁ binder hn comma₂
              (reads (by simp only [Part.rank]; omega) inner) closing suffix
          · obtain ⟨rfl, rfl⟩ := (returns_path sign hs).mp h
            exact .path sign hs
      | _ =>
          subst sign
          obtain ⟨hr, h⟩ := h
          rw [readExpression] at h
          cases h
  | items es =>
      rcases returns_items.mp h with ⟨hn, rfl, rfl⟩ | ⟨first, others, s, t, rfl, sign, ⟨h₂, head⟩,
        tail⟩
      · exact .lastItem hn
      · have h₁ := sign.length_lt
        exact .item sign (reads (by simp only [Part.rank]; omega) ⟨h₂, head⟩)
          (reads (by simp only [Part.rank]; omega) tail)

/-- What the rules say is what the readers read. -/
theorem returns_of_reads {part : Part} {i r : Input} (h : Reads part i r) : Returns i r part := by
  induction h with
  | predicate _ _ first more => exact returns_predicate.mpr ⟨_, _, first, more⟩
  | alternative sign _ _ next more =>
      exact returns_alternatives.mpr (.inr ⟨_, _, _, sign, next, more⟩)
  | lastAlternative h => exact returns_alternatives.mpr (.inl ⟨h, rfl, rfl⟩)
  | conjunction _ _ first more => exact returns_conjunction.mpr ⟨_, _, first, more⟩
  | conjunct sign _ _ next more => exact returns_conjuncts.mpr (.inr ⟨_, _, _, sign, next, more⟩)
  | lastConjunct h => exact returns_conjuncts.mpr (.inl ⟨h, rfl, rfl⟩)
  | parentheses opening _ closing inner =>
      exact returns_primary.mpr (.parentheses opening inner closing)
  | always h => exact returns_primary.mpr (.always h)
  | never h => exact returns_primary.mpr (.never h)
  | any sign _ inner => exact returns_primary.mpr (.any sign inner)
  | plain h _ inner => exact returns_primary.mpr (.plain h inner)
  | comparison _ sign hr letters _ first last =>
      exact returns_comparison.mpr
        ⟨_, _, _, _, _, _, _, _, rfl, first, sign, hr, letters, last⟩
  | placeholder h => exact (returns_placeholder h).mpr ⟨_, rfl, rfl⟩
  | number h => exact (returns_number h).mpr ⟨rfl, rfl⟩
  | list opening _ _ closing head tail =>
      exact (returns_list opening).mpr ⟨_, _, _, _, rfl, head, tail, closing⟩
  | path h hs => exact (returns_path h hs).mpr ⟨rfl, rfl⟩
  | subquery sign opening source comma₁ binder hn comma₂ _ closing suffix inner =>
      exact (returns_subquery sign).mpr ⟨_, _, _, _, _, _, _, _, _, _, _, rfl, opening, source,
        comma₁, binder, hn, comma₂, inner, closing, suffix⟩
  | item sign _ _ head tail =>
      exact returns_items.mpr (.inr ⟨_, _, _, _, rfl, sign, head, tail⟩)
  | lastItem h => exact returns_items.mpr (.inl ⟨h, rfl, rfl⟩)

end Winnow.Input

namespace Winnow

/-- A predicate is read from all of its tokens, with all of its arguments. -/
theorem Predicate.reads_of_ofTokens {tokens : List Token} {arguments : List Json} {p : Predicate}
    (h : ofTokens tokens arguments = .ok p) :
    Input.Reads (.predicate p) ⟨tokens, arguments⟩ ⟨[], []⟩ := by
  unfold ofTokens at h
  split at h
  · cases h
  · next q rest hr read =>
      have reads : Input.Reads (.predicate q) ⟨tokens, arguments⟩ rest :=
        Input.reads_of_returns ⟨hr, read⟩
      obtain ⟨_ | _, _ | _⟩ := rest
      · cases h
        exact reads
      all_goals cases h

theorem Predicate.ofTokens_of_reads {tokens : List Token} {arguments : List Json} {p : Predicate}
    (h : Input.Reads (.predicate p) ⟨tokens, arguments⟩ ⟨[], []⟩) :
    ofTokens tokens arguments = .ok p := by
  obtain ⟨hr, read⟩ := Input.returns_of_reads h
  simp [ofTokens, read]

end Winnow
