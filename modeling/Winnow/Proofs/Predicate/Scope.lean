import Winnow.Proofs.Predicate.Faults

/-!
Variables in scope. Every variable of a scoped predicate is bound by a subquery around it, so the
evaluation of the predicate never misses one. Tokens are scoped if this can be seen from the
parentheses of their subqueries, and what is read from scoped tokens is scoped.
-/

namespace Winnow

def variableOf? : List String → Option String
  | [] => none
  | head :: _ => if head.toList.head? = some '$' then some head else none

/-- The variable of a path, if there is one, is one of some names. -/
def IsBound (names : List String) (steps : List String) : Prop := ∀ v ∈ variableOf? steps, v ∈ names

mutual

/-- Every variable of an expression is one of some names or bound around it. -/
def Expression.IsScoped (names : List String) : Expression → Prop
  | .path steps => IsBound names steps
  | .value _ => True
  | .list items => Expression.AreScoped names items
  | .subquery collection name body _ =>
    IsBound names collection ∧ body.IsScoped (name :: names)

def Expression.AreScoped (names : List String) : List Expression → Prop
  | [] => True
  | item :: rest => item.IsScoped names ∧ Expression.AreScoped names rest

/-- Every variable of a predicate is one of some names or bound around it. -/
def Predicate.IsScoped (names : List String) : Predicate → Prop
  | .constant _ => True
  | .and left right => left.IsScoped names ∧ right.IsScoped names
  | .or left right => left.IsScoped names ∧ right.IsScoped names
  | .compare _ left _ _ right => left.IsScoped names ∧ right.IsScoped names

end

/-! ### Evaluation -/

def Scope.Has (scope : Scope) (names : List String) : Prop :=
  ∀ name ∈ names, ∃ value, scope.lookup name = some value

theorem Scope.Has.cons {scope : Scope} {names : List String} (h : scope.Has names) (name : String)
    (value : Json) : Scope.Has ((name, value) :: scope) (name :: names) := by
  intro other ho
  by_cases hn : other = name
  · exact ⟨value, by simp [hn]⟩
  · have apart : (other == name) = false := by simpa using hn
    rw [List.lookup_cons, apart]
    exact h other ((List.mem_cons.mp ho).resolve_left hn)

section Evaluation

variable {element : Json}

theorem finds_resolve {scope : Scope} {names steps : List String} (has : scope.Has names)
    (bound : IsBound names steps) : Finds (resolve element scope steps) := by
  cases steps with
  | nil => exact .ok _
  | cons head rest =>
      rw [resolve]
      split
      · exact Json.finds_walk _ _
      · split
        · next hd =>
            have begins : variableOf? (head :: rest) = some head := by simp [variableOf?, hd]
            obtain ⟨value, hv⟩ := has head (bound head begins)
            rw [hv]
            exact Json.finds_walk _ _
        · exact Json.finds_walk _ _
        · exact Json.finds_walk _ _

theorem finds_collectionItems (v : Json) : Finds (collectionItems v) := by
  cases v with
  | array items => exact .ok _
  | null => exact .ok _
  | _ => exact .error (by simp)

theorem finds_keepIf {α : Type} {test : α → Except QueryFault Bool} (h : ∀ x, Finds (test x))
    (xs : List α) : Finds (keepIf test xs) := by
  induction xs with
  | nil => exact .ok _
  | cons x rest ih =>
      rw [keepIf]
      split
      · next he => exact (h x).of_eq_error he
      · split
        · next he => exact ih.of_eq_error he
        · exact .ok _

mutual

theorem Expression.finds_evaluate {scope : Scope} {names : List String} (has : scope.Has names) :
    ∀ {e : Expression}, e.IsScoped names → Finds (e.evaluate element scope)
  | .path steps, h => by
      rw [Expression.evaluate]
      exact finds_resolve has h
  | .value v, _ => by
      rw [Expression.evaluate]
      exact .ok _
  | .list items, h => by
      have all := Expression.finds_evaluateAll has h
      rw [Expression.evaluate]
      split
      · exact .ok _
      · next he => exact all.of_eq_error he
  | .subquery collection name body steps, h => by
      rw [Expression.IsScoped] at h
      have source : Finds (resolve element scope collection) := finds_resolve has h.1
      have test (item : Json) : Finds (body.holds element ((name, item) :: scope)) :=
        Predicate.finds_holds (has.cons name item) h.2
      rw [Expression.evaluate]
      split
      · next he => exact source.of_eq_error he
      · split
        · next he => exact (finds_collectionItems _).of_eq_error he
        · split
          · next he => exact (finds_keepIf test _).of_eq_error he
          · exact Json.finds_walk _ _

theorem Expression.finds_evaluateAll {scope : Scope} {names : List String} (has : scope.Has names) :
    ∀ {items : List Expression}, Expression.AreScoped names items →
      Finds (Expression.evaluateAll element scope items)
  | [], _ => by
      rw [Expression.evaluateAll]
      exact .ok _
  | item :: rest, h => by
      rw [Expression.AreScoped] at h
      have first := Expression.finds_evaluate has h.1
      have others := Expression.finds_evaluateAll has h.2
      rw [Expression.evaluateAll]
      split
      · next he => exact first.of_eq_error he
      · split
        · next he => exact others.of_eq_error he
        · exact .ok _

/-- The evaluation of a scoped predicate never misses a variable. -/
theorem Predicate.finds_holds {scope : Scope} {names : List String} (has : scope.Has names) :
    ∀ {p : Predicate}, p.IsScoped names → Finds (p.holds element scope)
  | .constant b, _ => by
      rw [Predicate.holds]
      exact .ok _
  | .and left right, h => by
      rw [Predicate.IsScoped] at h
      have first := Predicate.finds_holds has h.1
      have last := Predicate.finds_holds has h.2
      rw [Predicate.holds]
      split
      · exact last
      · exact first
  | .or left right, h => by
      rw [Predicate.IsScoped] at h
      have first := Predicate.finds_holds has h.1
      have last := Predicate.finds_holds has h.2
      rw [Predicate.holds]
      split
      · exact last
      · exact first
  | .compare any left relation folding right, h => by
      rw [Predicate.IsScoped] at h
      have first := Expression.finds_evaluate has h.1
      have last := Expression.finds_evaluate has h.2
      rw [Predicate.holds]
      split
      · next he => exact first.of_eq_error he
      · split
        · next he => exact last.of_eq_error he
        · exact .ok _

end

end Evaluation

/-! ### More names -/

theorem IsBound.mono {names more : List String} (h : names ⊆ more) {steps : List String}
    (bound : IsBound names steps) : IsBound more steps := fun v hv => h (bound v hv)

mutual

theorem Expression.IsScoped.mono {names more : List String} (h : names ⊆ more) :
    ∀ {e : Expression}, e.IsScoped names → e.IsScoped more
  | .path steps, he => IsBound.mono h he
  | .value _, _ => trivial
  | .list items, he => Expression.AreScoped.mono h he
  | .subquery collection name body steps, he => by
      rw [Expression.IsScoped] at he ⊢
      exact ⟨he.1.mono h, Predicate.IsScoped.mono (List.cons_subset_cons name h) he.2⟩

theorem Expression.AreScoped.mono {names more : List String} (h : names ⊆ more) :
    ∀ {items : List Expression}, Expression.AreScoped names items → Expression.AreScoped more items
  | [], _ => trivial
  | item :: rest, hi => by
      rw [Expression.AreScoped] at hi ⊢
      exact ⟨Expression.IsScoped.mono h hi.1, Expression.AreScoped.mono h hi.2⟩

theorem Predicate.IsScoped.mono {names more : List String} (h : names ⊆ more) :
    ∀ {p : Predicate}, p.IsScoped names → p.IsScoped more
  | .constant _, _ => trivial
  | .and left right, hp => by
      rw [Predicate.IsScoped] at hp ⊢
      exact ⟨Predicate.IsScoped.mono h hp.1, Predicate.IsScoped.mono h hp.2⟩
  | .or left right, hp => by
      rw [Predicate.IsScoped] at hp ⊢
      exact ⟨Predicate.IsScoped.mono h hp.1, Predicate.IsScoped.mono h hp.2⟩
  | .compare any left relation folding right, hp => by
      rw [Predicate.IsScoped] at hp ⊢
      exact ⟨Expression.IsScoped.mono h hp.1, Expression.IsScoped.mono h hp.2⟩

end

/-! ### Tokens -/

/-- The parentheses around a token, from the inside out; those of a subquery have its variable. -/
abbrev Frames := List (Option String)

def Frames.names (frames : Frames) : List String := frames.filterMap id

namespace Token

/-- A token that neither begins nor ends anything and names only what is bound. -/
def IsFree (frames : Frames) : Token → Prop
  | openParen => False
  | closeParen => False
  | word text => IsBound frames.names (pathSteps text)
  | _ => True

/-- A token that can be part of the name of a field. -/
def IsName (frames : Frames) : Token → Prop
  | word text => IsBound frames.names (pathSteps text)
  | number _ => True
  | _ => False

/-- A token that neither opens nor closes parentheses, nor begins a subquery. -/
def isInner : Token → Bool
  | openParen => false
  | closeParen => false
  | word text => text != "SUBQUERY"
  | _ => true

/-- Inside parentheses, tokens name only what is bound by the subqueries around them. -/
inductive Scoped : Frames → List Token → Prop where
  | nil {frames} : Scoped frames []
  | token {frames t rest} (free : IsFree frames t) (behind : Scoped frames rest) :
    Scoped frames (t :: rest)
  | opening {frames rest} (inside : Scoped (none :: frames) rest) :
    Scoped frames (openParen :: rest)
  | closing {frame frames rest} (behind : Scoped frames rest) :
    Scoped (frame :: frames) (closeParen :: rest)
  | subquery {frames front name rest} (names : ∀ t ∈ front, IsName frames t)
    (body : Scoped (some name :: frames) rest) :
    Scoped frames (word "SUBQUERY" :: openParen :: (front ++ comma :: word name :: comma :: rest))

variable {frames : Frames} {rest : List Token}

theorem IsName.isFree {t : Token} (h : IsName frames t) : IsFree frames t := by
  cases t with
  | word text => exact h
  | number x => trivial
  | _ => cases h

theorem Scoped.append {front : List Token} (free : ∀ t ∈ front, IsFree frames t)
    (h : Scoped frames rest) : Scoped frames (front ++ rest) := by
  induction front with
  | nil => exact h
  | cons t front ih =>
      exact .token (free t List.mem_cons_self) (ih fun u hu => free u (List.mem_cons_of_mem t hu))

theorem Scoped.tail {t : Token} (h : Scoped frames (t :: rest)) (inner : t.isInner) :
    Scoped frames rest := by
  cases h with
  | token free behind => exact behind
  | opening inside => cases inner
  | closing behind => cases inner
  | subquery names body => exact absurd inner (by decide)

theorem Scoped.bound {text : String} (h : Scoped frames (word text :: rest))
    (sign : text ≠ "SUBQUERY") : IsBound frames.names (pathSteps text) := by
  cases h with
  | token free behind => exact free
  | subquery names body => exact absurd rfl sign

theorem Scoped.opened (h : Scoped frames (openParen :: rest)) : Scoped (none :: frames) rest := by
  cases h with
  | token free behind => cases free
  | opening inside => exact inside

theorem Scoped.closed {frame : Option String} (h : Scoped (frame :: frames) (closeParen :: rest)) :
    Scoped frames rest := by
  cases h with
  | token free behind => cases free
  | closing behind => exact behind

theorem Scoped.word_comma {text : String} (h : Scoped frames (word text :: comma :: rest)) :
    IsBound frames.names (pathSteps text) ∧ Scoped frames rest := by
  cases h with
  | token free behind => exact ⟨free, behind.tail rfl⟩

theorem Scoped.subquery_cases {tokens : List Token}
    (h : Scoped frames (word "SUBQUERY" :: openParen :: tokens)) :
    Scoped (none :: frames) tokens ∨
      ∃ front name rest, tokens = front ++ comma :: word name :: comma :: rest ∧
        (∀ t ∈ front, IsName frames t) ∧ Scoped (some name :: frames) rest := by
  cases h with
  | token free behind => exact .inl behind.opened
  | subquery names body => exact .inr ⟨_, _, _, rfl, names, body⟩

/-- The body of a subquery is in parentheses with its variable, or it does without it. -/
theorem Scoped.entered {collection name : String}
    (h : Scoped frames
      (word "SUBQUERY" :: openParen :: word collection :: comma :: word name :: comma :: rest)) :
    IsBound frames.names (pathSteps collection) ∧
      (Scoped (some name :: frames) rest ∨ Scoped (none :: frames) rest) := by
  rcases h.subquery_cases with h | ⟨front, other, more, ht, names, body⟩
  · obtain ⟨bound, behind⟩ := h.word_comma
    exact ⟨bound, .inr behind.word_comma.2⟩
  · rcases front with _ | ⟨t, _ | ⟨u, front⟩⟩
    · cases ht
    · cases ht
      exact ⟨names _ List.mem_cons_self, .inl body⟩
    · obtain rfl : comma = u := (List.cons.inj (List.cons.inj ht).2).1
      cases names comma (List.mem_cons_of_mem _ List.mem_cons_self)

end Token

/-! ### Reading -/

namespace Input

/-- What a part that is read says of variables. -/
def Part.IsScoped (names : List String) : Part → Prop
  | predicate p => p.IsScoped names
  | alternatives left p => left.IsScoped names → p.IsScoped names
  | conjunction p => p.IsScoped names
  | conjuncts left p => left.IsScoped names → p.IsScoped names
  | primary p => p.IsScoped names
  | comparison _ p => p.IsScoped names
  | expression e => e.IsScoped names
  | items es => Expression.AreScoped names es

theorem StartsWith.tokens_eq {i r : Input} {token : Token} (h : i.StartsWith token r) :
    i.tokens = token :: r.tokens := congrArg Input.tokens h

theorem StartsWith.inScope {i r : Input} {token : Token} (h : i.StartsWith token r)
    {frames : Frames} (inScope : Token.Scoped frames i.tokens) (inner : token.isInner) :
    Token.Scoped frames r.tokens :=
  (h.tokens_eq ▸ inScope).tail inner

theorem ReadsFolding.inScope {i r : Input} {f : Folding} (h : ReadsFolding f i r) {frames : Frames}
    (inScope : Token.Scoped frames i.tokens) : Token.Scoped frames r.tokens := by
  cases h with
  | absent h => exact inScope
  | letters h hf => exact h.inScope inScope rfl

theorem ReadsSteps.inScope {i r : Input} {steps : List String} (h : ReadsSteps steps i r)
    {frames : Frames} (inScope : Token.Scoped frames i.tokens) : Token.Scoped frames r.tokens := by
  cases h with
  | absent h => exact inScope
  | path h point =>
      refine h.inScope inScope (bne_iff_ne.mpr ?_)
      rintro ⟨⟩
      exact absurd point (by decide)

theorem isInner_of_relationOf {token : Token} {relation : Relation}
    (h : relationOf token = .ok relation) : token.isInner := by
  cases token with
  | openParen => cases h
  | closeParen => cases h
  | word text =>
      refine bne_iff_ne.mpr ?_
      rintro rfl
      cases h
  | _ => rfl

/-- What is read from scoped tokens is scoped, and so is what is left. -/
theorem Reads.inScope {part : Part} {i r : Input} (h : Reads part i r) {frames : Frames}
    (inScope : Token.Scoped frames i.tokens) :
    part.IsScoped frames.names ∧ Token.Scoped frames r.tokens := by
  induction h generalizing frames with
  | predicate first more ihf ihm =>
      obtain ⟨left, inScope⟩ := ihf inScope
      obtain ⟨whole, inScope⟩ := ihm inScope
      exact ⟨whole left, inScope⟩
  | alternative sign next more ihn ihm =>
      obtain ⟨right, inScope⟩ := ihn (sign.inScope inScope rfl)
      obtain ⟨whole, inScope⟩ := ihm inScope
      refine ⟨fun left => whole ?_, inScope⟩
      rw [Predicate.IsScoped]
      exact ⟨left, right⟩
  | lastAlternative h => exact ⟨id, inScope⟩
  | conjunction first more ihf ihm =>
      obtain ⟨left, inScope⟩ := ihf inScope
      obtain ⟨whole, inScope⟩ := ihm inScope
      exact ⟨whole left, inScope⟩
  | conjunct sign next more ihn ihm =>
      obtain ⟨right, inScope⟩ := ihn (sign.inScope inScope rfl)
      obtain ⟨whole, inScope⟩ := ihm inScope
      refine ⟨fun left => whole ?_, inScope⟩
      rw [Predicate.IsScoped]
      exact ⟨left, right⟩
  | lastConjunct h => exact ⟨id, inScope⟩
  | parentheses opening inner closing ih =>
      obtain ⟨whole, inScope⟩ := ih (opening.tokens_eq ▸ inScope).opened
      exact ⟨whole, (closing.tokens_eq ▸ inScope).closed⟩
  | always h => exact ⟨trivial, h.inScope inScope rfl⟩
  | never h => exact ⟨trivial, h.inScope inScope rfl⟩
  | any sign inner ih => exact ih (sign.inScope inScope rfl)
  | plain h inner ih => exact ih inScope
  | comparison first sign hr letters last ihf ihl =>
      obtain ⟨left, inScope⟩ := ihf inScope
      have inScope := letters.inScope (sign.inScope inScope (isInner_of_relationOf hr))
      obtain ⟨right, inScope⟩ := ihl inScope
      refine ⟨?_, inScope⟩
      rw [Part.IsScoped, Predicate.IsScoped]
      exact ⟨left, right⟩
  | placeholder h => exact ⟨trivial, h.inScope inScope rfl⟩
  | number h => exact ⟨trivial, h.inScope inScope rfl⟩
  | list opening head tail closing ihh iht =>
      obtain ⟨first, inScope⟩ := ihh (opening.inScope inScope rfl)
      obtain ⟨others, inScope⟩ := iht inScope
      refine ⟨?_, closing.inScope inScope rfl⟩
      rw [Part.IsScoped, Expression.IsScoped, Expression.AreScoped]
      exact ⟨first, others⟩
  | path h hs =>
      exact ⟨(h.tokens_eq ▸ inScope).bound hs, h.inScope inScope (bne_iff_ne.mpr hs)⟩
  | subquery sign opening source comma₁ binder hn comma₂ inner closing suffix ih =>
      rw [sign.tokens_eq, opening.tokens_eq, source.tokens_eq, comma₁.tokens_eq, binder.tokens_eq,
        comma₂.tokens_eq] at inScope
      -- The word may be a name before parentheses; then the body does without the variable.
      obtain ⟨bound, inScope | inScope⟩ := inScope.entered
      · obtain ⟨body, inScope⟩ := ih inScope
        refine ⟨?_, suffix.inScope (closing.tokens_eq ▸ inScope).closed⟩
        rw [Part.IsScoped, Expression.IsScoped]
        exact ⟨bound, body⟩
      · obtain ⟨body, inScope⟩ := ih inScope
        refine ⟨?_, suffix.inScope (closing.tokens_eq ▸ inScope).closed⟩
        rw [Part.IsScoped, Expression.IsScoped]
        exact ⟨bound, Predicate.IsScoped.mono (List.subset_cons_self _ _) body⟩
  | item sign head tail ihh iht =>
      obtain ⟨first, inScope⟩ := ihh (sign.inScope inScope rfl)
      obtain ⟨others, inScope⟩ := iht inScope
      refine ⟨?_, inScope⟩
      rw [Part.IsScoped, Expression.AreScoped]
      exact ⟨first, others⟩
  | lastItem h => exact ⟨trivial, inScope⟩

end Input

/-- The predicate of scoped tokens is scoped. -/
theorem Predicate.isScoped_of_ofTokens {tokens : List Token} {arguments : List Json} {p : Predicate}
    (inScope : Token.Scoped [] tokens) (h : ofTokens tokens arguments = .ok p) : p.IsScoped [] :=
  ((reads_of_ofTokens h).inScope inScope).1

end Winnow
