import Winnow.Proofs.Predicate.Reading
import Winnow.Query.Selection

/-!
Arguments in their places. A reader takes tokens from the front of its input, and one argument for
each placeholder among them. The values in what it reads are those that its tokens stand for, from
left to right. So a text that is read has a placeholder for each of its arguments, and every
argument is the value in the place of its own placeholder.
-/

namespace Winnow

/-! ### Values -/

mutual

def Expression.values : Expression → List Json
  | .path _ => []
  | .value v => [v]
  | .list items => Expression.valuesOfAll items
  | .subquery _ _ body _ => body.values

def Expression.valuesOfAll : List Expression → List Json
  | [] => []
  | item :: rest => item.values ++ Expression.valuesOfAll rest

def Predicate.values : Predicate → List Json
  | .constant _ => []
  | .and left right => left.values ++ right.values
  | .or left right => left.values ++ right.values
  | .compare _ left _ _ right => left.values ++ right.values

end

namespace Token

/-- The values that tokens stand for, from left to right: a number for itself, and a placeholder for
the next of some arguments. -/
def values : List Token → List Json → List Json
  | [], _ => []
  | placeholder :: rest, argument :: arguments => argument :: values rest arguments
  | number x :: rest, arguments => .ofDouble x :: values rest arguments
  | _ :: rest, arguments => values rest arguments

def isValue : Token → Bool
  | placeholder => true
  | number _ => true
  | _ => false

theorem values_of_not_isValue {t : Token} (h : t.isValue = false) : values [t] [] = [] := by
  cases t with
  | placeholder | number x => cases h
  | _ => rfl

theorem count_of_not_isValue {t : Token} (h : t.isValue = false) : [t].count placeholder = 0 := by
  cases t with
  | placeholder | number x => cases h
  | _ => rfl

/-- Where the placeholders in front are as many as the arguments for them, what follows has the
other arguments. -/
theorem values_append {tokens : List Token} {arguments : List Json}
    (h : tokens.count placeholder = arguments.length) (more : List Token) (others : List Json) :
    values (tokens ++ more) (arguments ++ others) =
      values tokens arguments ++ values more others := by
  induction tokens generalizing arguments with
  | nil =>
      obtain rfl := List.length_eq_zero_iff.mp h.symm
      rfl
  | cons t tokens ih =>
      cases t with
      | placeholder =>
          rw [List.count_cons_self] at h
          cases arguments with
          | nil => cases h
          | cons argument arguments =>
              simp only [List.cons_append, values, ih (Nat.succ_inj.mp h)]
      | _ => simp_all [values]

end Token

/-! ### What readers take -/

namespace Input

/-- Tokens are taken from the front of an input, and an argument for each placeholder among them;
together they stand for some values. -/
def Takes (i r : Input) (values : List Json) : Prop :=
  ∃ tokens arguments, i.tokens = tokens ++ r.tokens ∧ i.arguments = arguments ++ r.arguments ∧
    tokens.count .placeholder = arguments.length ∧ Token.values tokens arguments = values

section Takes

variable {i r s : Input} {vs ws : List Json}

theorem Takes.refl : Takes i i [] := ⟨[], [], rfl, rfl, rfl, rfl⟩

theorem Takes.trans (h : Takes i r vs) (h' : Takes r s ws) : Takes i s (vs ++ ws) := by
  obtain ⟨tokens, arguments, ht, ha, count, rfl⟩ := h
  obtain ⟨more, others, ht', ha', count', rfl⟩ := h'
  refine ⟨tokens ++ more, arguments ++ others, ?_, ?_, ?_, Token.values_append count more others⟩
  · rw [ht, ht', List.append_assoc]
  · rw [ha, ha', List.append_assoc]
  · rw [List.count_append, List.length_append, count, count']

theorem StartsWith.takes {token : Token} (h : i.StartsWith token r)
    (plain : token.isValue = false) : Takes i r [] := by
  subst h
  exact ⟨[token], [], rfl, rfl, Token.count_of_not_isValue plain,
    Token.values_of_not_isValue plain⟩

/-- A token that stands for no value may be passed on the way. -/
theorem StartsWith.takes_trans {token : Token} (h : i.StartsWith token r)
    (h' : Takes r s vs) (plain : token.isValue = false) : Takes i s vs :=
  (h.takes plain).trans h'

theorem Takes.passing {token : Token} (h : Takes i r vs) (h' : r.StartsWith token s)
    (plain : token.isValue = false) : Takes i s vs := by
  simpa using h.trans (h'.takes plain)

theorem StartsWith.takes_number {x : Double} (h : i.StartsWith (.number x) r) :
    Takes i r [.ofDouble x] := by
  subst h
  exact ⟨[.number x], [], rfl, rfl, rfl, rfl⟩

theorem StartsWith.takes_placeholder {value : Json}
    (h : i.StartsWith .placeholder ⟨r.tokens, value :: r.arguments⟩) : Takes i r [value] := by
  subst h
  exact ⟨[.placeholder], [value], rfl, rfl, rfl, rfl⟩

theorem ReadsFolding.takes {f : Folding} (h : ReadsFolding f i r) : Takes i r [] := by
  cases h with
  | absent h => exact .refl
  | letters h hf => exact h.takes rfl

theorem ReadsSteps.takes {steps : List String} (h : ReadsSteps steps i r) : Takes i r [] := by
  cases h with
  | absent h => exact .refl
  | path h point => exact h.takes rfl

theorem isValue_of_relationOf {token : Token} {relation : Relation}
    (h : relationOf token = .ok relation) : token.isValue = false := by
  cases token with
  | placeholder | number x => cases h
  | _ => rfl

end Takes

/-- The values that reading a part adds to those of what was read before it. -/
def Part.Adds (values : List Json) : Part → Prop
  | predicate p => p.values = values
  | alternatives left p => p.values = left.values ++ values
  | conjunction p => p.values = values
  | conjuncts left p => p.values = left.values ++ values
  | primary p => p.values = values
  | comparison _ p => p.values = values
  | expression e => e.values = values
  | items es => Expression.valuesOfAll es = values

/-- What a part is read from stands for the values that the part adds. -/
theorem Reads.takes {part : Part} {i r : Input} (h : Reads part i r) :
    ∃ values, Takes i r values ∧ part.Adds values := by
  -- Placeholders and numbers are taken as expressions only. Every other token that a case passes
  -- stands for no value, so the values of a part are those of its own parts.
  induction h with
  | predicate _ _ first more | conjunction _ _ first more =>
      obtain ⟨vs, first, hv⟩ := first
      obtain ⟨ws, more, hw⟩ := more
      exact ⟨vs ++ ws, first.trans more, hv ▸ hw⟩
  | alternative sign _ _ next more | conjunct sign _ _ next more =>
      obtain ⟨vs, next, rfl⟩ := next
      obtain ⟨ws, more, hw⟩ := more
      refine ⟨_, sign.takes_trans (next.trans more) rfl, ?_⟩
      rw [Part.Adds, hw, Predicate.values, List.append_assoc]
  | lastAlternative h | lastConjunct h => exact ⟨[], .refl, (List.append_nil _).symm⟩
  | parentheses opening _ closing inner =>
      obtain ⟨vs, inner, hv⟩ := inner
      exact ⟨vs, opening.takes_trans (inner.passing closing rfl) rfl, hv⟩
  | always h | never h => exact ⟨[], h.takes rfl, rfl⟩
  | any sign _ inner =>
      obtain ⟨vs, inner, hv⟩ := inner
      exact ⟨vs, sign.takes_trans inner rfl, hv⟩
  | plain _ _ inner => exact inner
  | comparison _ sign hr letters _ first last =>
      obtain ⟨vs, first, rfl⟩ := first
      obtain ⟨ws, last, rfl⟩ := last
      have last := sign.takes_trans (letters.takes.trans last) (isValue_of_relationOf hr)
      exact ⟨_, first.trans last, rfl⟩
  | placeholder h => exact ⟨_, h.takes_placeholder, rfl⟩
  | number h => exact ⟨_, h.takes_number, rfl⟩
  | list opening _ _ closing head tail =>
      obtain ⟨vs, head, rfl⟩ := head
      obtain ⟨ws, tail, rfl⟩ := tail
      exact ⟨_, opening.takes_trans ((head.trans tail).passing closing rfl) rfl, rfl⟩
  | path h _ => exact ⟨[], h.takes rfl, rfl⟩
  | subquery sign opening source comma₁ binder _ comma₂ _ closing suffix inner =>
      obtain ⟨vs, inner, rfl⟩ := inner
      have front := ((((sign.takes rfl).passing opening rfl).passing source rfl).passing comma₁
        rfl).passing binder rfl
      have whole := (((front.passing comma₂ rfl).trans inner).passing closing rfl).trans
        suffix.takes
      exact ⟨_, by simpa [Expression.values] using whole, rfl⟩
  | item sign _ _ head tail =>
      obtain ⟨vs, head, rfl⟩ := head
      obtain ⟨ws, tail, rfl⟩ := tail
      exact ⟨_, sign.takes_trans (head.trans tail) rfl, rfl⟩
  | lastItem h => exact ⟨[], .refl, rfl⟩

/-! ### Positions -/

/-- Some of the tokens behind a position are taken, at least one and none beyond the last, and as
many arguments as there are placeholders among them. The arguments are the values in the places of
the placeholders. -/
def Covers (tokens : List Token) (arguments : List Json) (start : Nat) (rest : Input)
    (values : List Json) : Prop :=
  ∃ finish used, start < finish ∧ finish ≤ tokens.length ∧ rest.tokens = tokens.drop finish ∧
    arguments = used ++ rest.arguments ∧
    (tokens.extract start finish).count .placeholder = used.length ∧
    values = Token.values (tokens.extract start finish) used

theorem Takes.covers {tokens : List Token} {arguments : List Json} {start : Nat} {r : Input}
    {values : List Json} (h : Takes ⟨tokens.drop start, arguments⟩ r values)
    (shorter : r.length < length ⟨tokens.drop start, arguments⟩) :
    Covers tokens arguments start r values := by
  obtain ⟨front, used, ht, ha, count, rfl⟩ := h
  have taken : tokens.extract start (start + front.length) = front := by
    rw [List.extract_eq_take_drop, Nat.add_sub_cancel_left]
    rw [show tokens.drop start = _ from ht, List.take_left]
  have lengths := congrArg List.length ht
  simp only [length, List.length_append, List.length_drop] at shorter lengths
  refine ⟨start + front.length, used, by omega, by omega, ?_, ha, ?_, ?_⟩
  · rw [← List.drop_drop, show tokens.drop start = _ from ht, List.drop_left]
  · rw [taken, count]
  · rw [taken]

/-- A reader that begins at a position ends with a fault, or with what covers some of the tokens. -/
def Ends {α : Type} {n : Nat} (tokens : List Token) (arguments : List Json) (start : Nat)
    (values : α → List Json) (result : Reading α n) : Prop :=
  (∃ fault, result = .error fault) ∨
    ∃ x rest, result = .ok (x, rest) ∧ Covers tokens arguments start rest.val (values x)

section Ends

variable {tokens : List Token} {arguments : List Json} {start : Nat}

/-- A reader of parts ends as it should if its parts add the values that are asked for. -/
theorem ends_of_returns {α : Type} {values : α → List Json} (part : α → Part)
    {result : Reading α (length ⟨tokens.drop start, arguments⟩)}
    (returns : ∀ x rest, result = .ok (x, rest) →
      Returns ⟨tokens.drop start, arguments⟩ rest.val (part x))
    (adds : ∀ x vs, (part x).Adds vs → values x = vs) :
    Ends tokens arguments start values result := by
  cases hr : result with
  | error fault => exact .inl ⟨fault, rfl⟩
  | ok read =>
      obtain ⟨x, rest⟩ := read
      obtain ⟨vs, takes, hv⟩ := (reads_of_returns (returns x rest hr)).takes
      rw [← adds x vs hv] at takes
      exact .inr ⟨x, rest, rfl, takes.covers rest.property⟩

end Ends

end Input

theorem length_toJsonItems (arguments : List Argument) :
    (Argument.toJsonItems arguments).length = arguments.length := by
  induction arguments with
  | nil => rfl
  | cons a arguments ih => rw [Argument.toJsonItems, List.length_cons, List.length_cons, ih]

/-- The tokens of a predicate have its values, and a placeholder for each argument. -/
theorem Predicate.values_of_ofTokens {tokens : List Token} {arguments : List Json} {p : Predicate}
    (h : ofTokens tokens arguments = .ok p) :
    tokens.count .placeholder = arguments.length ∧ p.values = Token.values tokens arguments := by
  obtain ⟨values, ⟨front, used, ht, ha, count, rfl⟩, hv⟩ := (reads_of_ofTokens h).takes
  rw [List.append_nil] at ht ha
  subst ht ha
  exact ⟨count, hv⟩

/-- Wherever it begins, each reader ends: with a fault, or behind at least one more token and with
every argument in the place of its own placeholder. A text that is read has one placeholder for each
argument. -/
theorem Input.readers_align (tokens : List Token) (arguments : List Json) (start : Nat) (any : Bool)
    (format : String) (given : List Argument) :
    Ends tokens arguments start Predicate.values (readPredicate ⟨tokens.drop start, arguments⟩) ∧
      Ends tokens arguments start Predicate.values
        (readConjunction ⟨tokens.drop start, arguments⟩) ∧
      Ends tokens arguments start Predicate.values (readPrimary ⟨tokens.drop start, arguments⟩) ∧
      Ends tokens arguments start Predicate.values
        (readComparison any ⟨tokens.drop start, arguments⟩) ∧
      Ends tokens arguments start Expression.values
        (readExpression ⟨tokens.drop start, arguments⟩) ∧
      ((∃ fault, Predicate.ofText format given = .error fault) ∨
        ∃ scanned p, Token.scanAll format.toList = .ok scanned ∧
          Predicate.ofText format given = .ok p ∧
          scanned.count .placeholder = given.length ∧
          p.values = Token.values scanned (Argument.toJsonItems given)) := by
  refine ⟨ends_of_returns .predicate (fun _ rest h => ⟨rest.property, h⟩) fun _ _ hv => hv,
    ends_of_returns .conjunction (fun _ rest h => ⟨rest.property, h⟩) fun _ _ hv => hv,
    ends_of_returns .primary (fun _ rest h => ⟨rest.property, h⟩) fun _ _ hv => hv,
    ends_of_returns (.comparison any) (fun _ rest h => ⟨rest.property, h⟩) fun _ _ hv => hv,
    ends_of_returns .expression (fun _ rest h => ⟨rest.property, h⟩) fun _ _ hv => hv, ?_⟩
  cases hp : Predicate.ofText format given with
  | error fault => exact .inl ⟨fault, rfl⟩
  | ok p =>
      unfold Predicate.ofText at hp
      split at hp
      · cases hp
      · next scanned hs =>
          obtain ⟨count, values⟩ := Predicate.values_of_ofTokens hp
          rw [length_toJsonItems] at count
          exact .inr ⟨scanned, p, hs, rfl, count, values⟩

end Winnow
