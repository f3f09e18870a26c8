import Winnow.Number.Layout
import Winnow.Text.Alphanumeric
import Winnow.Text.Quoted

/-!
Tokens of query text, and what can be wrong with a query when it is read and evaluated.
-/

namespace Winnow

inductive Token where
  | openParen
  | closeParen
  | openBrace
  | closeBrace
  | comma
  | placeholder
  | number (x : Double)
  | options (codes : String)
  | operator (text : String)
  | word (text : String)
deriving DecidableEq

def Token.inspect : Token → String
  | openParen => "LParen"
  | closeParen => "RParen"
  | openBrace => "LBrace"
  | closeBrace => "RBrace"
  | comma => "Comma"
  | placeholder => "Placeholder"
  | number x => "Number(" ++ x.write .general ++ ")"
  | options codes => "Options(" ++ Text.inspect codes ++ ")"
  | operator text => "Operator(" ++ Text.inspect text ++ ")"
  | word text => "Word(" ++ Text.inspect text ++ ")"

inductive QueryFault where
  | unterminatedOptions
  | badNumber (text : String)
  | unexpectedCharacter (c : Char)
  | unexpectedEnd
  | expected (expected found : Token)
  | unsupportedOperator (text : String)
  | unsupportedKeyword (text : String)
  | expectedOperator (found : Token)
  | unknownOption (c : Char)
  | missingArgument
  | expectedOperand (found : Token)
  | expectedCollection (found : Token)
  | expectedVariable (found : Token)
  | trailingInput (position : Nat)
  | unusedArgument
  | unboundVariable (name : String)
  /-- A function or a subquery is applied to a value that is no collection. -/
  | notCollection (what : String) (value : String)
  | unknownAggregate (name : String)
deriving DecidableEq

def graved (text : String) : String := "\x60" ++ text ++ "\x60"

def QueryFault.message : QueryFault → String
  | unterminatedOptions => "unterminated option list"
  | badNumber text => "bad number " ++ graved text
  | unexpectedCharacter c => "unexpected character " ++ graved (String.singleton c)
  | unexpectedEnd => "unexpected end of input"
  | expected token found => "expected " ++ token.inspect ++ ", found " ++ found.inspect
  | unsupportedOperator text => "unsupported operator " ++ graved text
  | unsupportedKeyword text => "unsupported keyword " ++ graved text
  | expectedOperator found => "expected operator, found " ++ found.inspect
  | unknownOption c => "unknown option " ++ graved (String.singleton c)
  | missingArgument => "more placeholders than arguments"
  | expectedOperand found => "expected operand, found " ++ found.inspect
  | expectedCollection found => "expected collection, found " ++ found.inspect
  | expectedVariable found => "expected variable, found " ++ found.inspect
  | trailingInput position => "trailing input at token " ++ toString position
  | unusedArgument => "more arguments than placeholders"
  | unboundVariable name => "unbound variable " ++ name
  | notCollection what value => what ++ " over non-collection " ++ value
  | unknownAggregate name => "unknown aggregate @" ++ name

namespace Token

def isWordPart (c : Char) : Bool :=
  Text.isAlphanumeric c || c == '_' || c == '$' || c == '@' || c == '.'

def isNumberPart (c : Char) : Bool :=
  c.isDigit || c == '.' || c == 'e' || c == 'E' || c == '-' || c == '+'

/-- A number begins with a digit, or with a minus sign before a digit. -/
def startsNumber (c : Char) (rest : List Char) : Bool :=
  c.isDigit || c == '-' && rest.head?.any Char.isDigit

def ofMark? (c : Char) : Option Token :=
  if c = '(' then some openParen
  else if c = ')' then some closeParen
  else if c = '{' then some openBrace
  else if c = '}' then some closeBrace
  else if c = ',' then some comma
  else if c = '?' then some placeholder
  else none

def isOperatorStart (c : Char) : Bool := c == '=' || c == '!' || c == '<' || c == '>'

/-- Reads one token from its first character and what follows, and returns it with the rest. -/
def scan (c : Char) (rest : List Char) :
    Except QueryFault (Token × { r : List Char // r.length ≤ rest.length }) :=
  match ofMark? c with
  | some token => .ok (token, ⟨rest, Nat.le_refl _⟩)
  | none =>
    if c = '[' then
      match h : rest.dropWhile (· != ']') with
      | [] => .error .unterminatedOptions
      | _ :: more =>
        .ok (options (String.ofList (rest.takeWhile (· != ']'))), ⟨more, by
          have := (List.dropWhile_suffix (l := rest) (· != ']')).length_le
          simp only [h, List.length_cons] at this
          omega⟩)
    else if isOperatorStart c then
      if rest.head? = some '=' then
        .ok (operator (String.ofList [c, '=']), ⟨rest.drop 1, by simp⟩)
      else .ok (operator (String.singleton c), ⟨rest, Nat.le_refl _⟩)
    else if startsNumber c rest then
      let text := c :: rest.takeWhile isNumberPart
      match Numeral.ofText? text with
      | none => .error (.badNumber (String.ofList text))
      | some n => .ok (number (n.value.toBinary .double),
          ⟨rest.dropWhile isNumberPart, (List.dropWhile_suffix _).length_le⟩)
    else if isWordPart c then
      .ok (word (String.ofList (c :: rest.takeWhile isWordPart)),
        ⟨rest.dropWhile isWordPart, (List.dropWhile_suffix _).length_le⟩)
    else .error (.unexpectedCharacter c)

/-- The tokens of a text. Spaces separate tokens and mean nothing else. -/
def scanAll : List Char → Except QueryFault (List Token)
  | [] => .ok []
  | c :: rest =>
    if c = ' ' then scanAll rest
    else
      match scan c rest with
      | .error e => .error e
      | .ok (token, ⟨more, _⟩) =>
        match scanAll more with
        | .error e => .error e
        | .ok tokens => .ok (token :: tokens)
termination_by text => text.length

end Token

end Winnow
