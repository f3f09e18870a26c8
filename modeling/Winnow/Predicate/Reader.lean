import Winnow.Predicate.Basic
import Winnow.Predicate.Token

/-!
Reading predicates from tokens. Placeholders take the arguments from left to right. Every reader
returns what is left with a proof that it is shorter, so reading ends.
-/

namespace Winnow

/-- The tokens and the arguments that are still to be read. -/
structure Input where
  tokens : List Token
  arguments : List Json

namespace Input

def length (i : Input) : Nat := i.tokens.length

/-- What is left when fewer than `n` tokens are. -/
abbrev Rest (n : Nat) := { r : Input // r.length < n }

/-- A result and what is left after it. -/
abbrev Reading (α : Type) (n : Nat) := Except QueryFault (α × Rest n)

def next (i : Input) : Reading Token i.length :=
  match i with
  | ⟨[], _⟩ => .error .unexpectedEnd
  | ⟨token :: tokens, arguments⟩ => .ok (token, ⟨⟨tokens, arguments⟩, by simp [length]⟩)

def expect (token : Token) (i : Input) : Except QueryFault (Rest i.length) :=
  match i.next with
  | .error e => .error e
  | .ok (found, r) => if found = token then .ok r else .error (.expected token found)

def after? (token : Token) (i : Input) : Option (Rest i.length) :=
  match i with
  | ⟨[], _⟩ => none
  | ⟨found :: tokens, arguments⟩ =>
    if found = token then some ⟨⟨tokens, arguments⟩, by simp [length]⟩ else none

def takeArgument (i : Input) : Except QueryFault (Json × { r : Input // r.length = i.length }) :=
  match i with
  | ⟨_, []⟩ => .error .missingArgument
  | ⟨tokens, argument :: arguments⟩ => .ok (argument, ⟨⟨tokens, arguments⟩, rfl⟩)

def relationOf : Token → Except QueryFault Relation
  | .operator text =>
    if text = "=" ∨ text = "==" then .ok .equal
    else if text = "!=" then .ok .notEqual
    else if text = "<" then .ok .less
    else if text = ">" then .ok .greater
    else .error (.unsupportedOperator text)
  | .word text =>
    if text = "IN" then .ok .member
    else if text = "BETWEEN" then .ok .between
    else if text = "CONTAINS" then .ok .contains
    else if text = "BEGINSWITH" then .ok .beginsWith
    else if text = "ENDSWITH" then .ok .endsWith
    else .error (.unsupportedKeyword text)
  | found => .error (.expectedOperator found)

/-- The folding of a list of letters. The letter for the locale changes nothing. -/
def foldingOf (f : Folding) : List Char → Except QueryFault Folding
  | [] => .ok f
  | c :: codes =>
    if c = 'c' then foldingOf { f with ignoresCase := true } codes
    else if c = 'd' then foldingOf { f with ignoresDiacritics := true } codes
    else if c = 'l' then foldingOf f codes
    else .error (.unknownOption c)

def readFolding (i : Input) : Except QueryFault (Folding × { r : Input // r.length ≤ i.length }) :=
  match i with
  | ⟨.options codes :: tokens, arguments⟩ =>
    match foldingOf {} codes.toList with
    | .error e => .error e
    | .ok f => .ok (f, ⟨⟨tokens, arguments⟩, by simp [length]⟩)
  | ⟨tokens, arguments⟩ => .ok ({}, ⟨⟨tokens, arguments⟩, Nat.le_refl _⟩)

def readCollection (i : Input) : Reading (List String) i.length :=
  match i.next with
  | .error e => .error e
  | .ok (.word path, r) => .ok (pathSteps path, r)
  | .ok (found, _) => .error (.expectedCollection found)

def readVariable (i : Input) : Reading String i.length :=
  match i.next with
  | .error e => .error e
  | .ok (.word name, r) =>
    if name.toList.head? = some '$' then .ok (name, r) else .error (.expectedVariable (.word name))
  | .ok (found, _) => .error (.expectedVariable found)

/-- Reads the path after a subquery, which begins with a point, if there is one. -/
def readSteps (i : Input) : List String × { r : Input // r.length ≤ i.length } :=
  match i with
  | ⟨.word text :: tokens, arguments⟩ =>
    if text.toList.head? = some '.' then
      (pathSteps (String.ofList (text.toList.drop 1)), ⟨⟨tokens, arguments⟩, by simp [length]⟩)
    else ([], ⟨⟨.word text :: tokens, arguments⟩, Nat.le_refl _⟩)
  | ⟨tokens, arguments⟩ => ([], ⟨⟨tokens, arguments⟩, Nat.le_refl _⟩)

mutual

def readPredicate (i : Input) : Reading Predicate i.length := do
  let (left, ⟨r, _⟩) ← readConjunction i
  let (p, ⟨s, _⟩) ← readAlternatives left r
  return (p, ⟨s, by omega⟩)
termination_by (i.length, 4)

def readAlternatives (left : Predicate) (i : Input) : Reading Predicate (i.length + 1) :=
  match i.after? (.word "OR") with
  | none => .ok (left, ⟨i, Nat.lt_succ_self _⟩)
  | some ⟨r, _⟩ => do
    let (right, ⟨s, _⟩) ← readConjunction r
    let (p, ⟨t, _⟩) ← readAlternatives (.or left right) s
    return (p, ⟨t, by omega⟩)
termination_by (i.length, 0)

def readConjunction (i : Input) : Reading Predicate i.length := do
  let (left, ⟨r, _⟩) ← readPrimary i
  let (p, ⟨s, _⟩) ← readConjuncts left r
  return (p, ⟨s, by omega⟩)
termination_by (i.length, 3)

def readConjuncts (left : Predicate) (i : Input) : Reading Predicate (i.length + 1) :=
  match i.after? (.word "AND") with
  | none => .ok (left, ⟨i, Nat.lt_succ_self _⟩)
  | some ⟨r, _⟩ => do
    let (right, ⟨s, _⟩) ← readPrimary r
    let (p, ⟨t, _⟩) ← readConjuncts (.and left right) s
    return (p, ⟨t, by omega⟩)
termination_by (i.length, 0)

def readPrimary (i : Input) : Reading Predicate i.length :=
  match i.after? .openParen with
  | some ⟨r, _⟩ => do
    let (p, ⟨s, _⟩) ← readPredicate r
    let ⟨t, _⟩ ← s.expect .closeParen
    return (p, ⟨t, by omega⟩)
  | none =>
    match i.after? (.word "TRUEPREDICATE") with
    | some r => .ok (.constant true, r)
    | none =>
      match i.after? (.word "FALSEPREDICATE") with
      | some r => .ok (.constant false, r)
      | none =>
        match i.after? (.word "ANY") with
        | some ⟨r, _⟩ => do
          let (p, ⟨s, _⟩) ← readComparison true r
          return (p, ⟨s, by omega⟩)
        | none => readComparison false i
termination_by (i.length, 2)

def readComparison (any : Bool) (i : Input) : Reading Predicate i.length := do
  let (left, ⟨r, _⟩) ← readExpression i
  let (token, ⟨s, _⟩) ← r.next
  let relation ← relationOf token
  let (folding, ⟨t, _⟩) ← s.readFolding
  let (right, ⟨u, _⟩) ← readExpression t
  return (.compare any left relation folding right, ⟨u, by omega⟩)
termination_by (i.length, 1)

/-- Reads a placeholder, a number, a list in braces, a subquery or a path. -/
def readExpression (i : Input) : Reading Expression i.length := do
  let (token, ⟨r, _⟩) ← i.next
  match token with
  | .placeholder =>
    let (argument, ⟨s, _⟩) ← r.takeArgument
    return (.value argument, ⟨s, by omega⟩)
  | .number x => return (.value (.ofDouble x), ⟨r, by omega⟩)
  | .openBrace =>
    let (first, ⟨s, _⟩) ← readExpression r
    let (others, ⟨t, _⟩) ← readItems s
    let ⟨u, _⟩ ← t.expect .closeBrace
    return (.list (first :: others), ⟨u, by omega⟩)
  | .word text =>
    if text = "SUBQUERY" then
      let ⟨s₁, _⟩ ← r.expect .openParen
      let (collection, ⟨s₂, _⟩) ← s₁.readCollection
      let ⟨s₃, _⟩ ← s₂.expect .comma
      let (name, ⟨s₄, _⟩) ← s₃.readVariable
      let ⟨s₅, _⟩ ← s₄.expect .comma
      let (body, ⟨s₆, _⟩) ← readPredicate s₅
      let ⟨s₇, _⟩ ← s₆.expect .closeParen
      let (steps, ⟨s₈, _⟩) := s₇.readSteps
      return (.subquery collection name body steps, ⟨s₈, by omega⟩)
    else return (.path (pathSteps text), ⟨r, by omega⟩)
  | found => throw (.expectedOperand found)
termination_by (i.length, 0)

def readItems (i : Input) : Reading (List Expression) (i.length + 1) :=
  match i.after? .comma with
  | none => .ok ([], ⟨i, Nat.lt_succ_self _⟩)
  | some ⟨r, _⟩ => do
    let (item, ⟨s, _⟩) ← readExpression r
    let (items, ⟨t, _⟩) ← readItems s
    return (item :: items, ⟨t, by omega⟩)
termination_by (i.length, 0)

end

end Input

/-- The predicate that all tokens make up, with all arguments used. -/
def Predicate.ofTokens (tokens : List Token) (arguments : List Json) :
    Except QueryFault Predicate :=
  match Input.readPredicate ⟨tokens, arguments⟩ with
  | .error e => .error e
  | .ok (p, ⟨rest, _⟩) =>
    if !rest.tokens.isEmpty then .error (.trailingInput (tokens.length - rest.tokens.length))
    else if !rest.arguments.isEmpty then .error .unusedArgument
    else .ok p

end Winnow
