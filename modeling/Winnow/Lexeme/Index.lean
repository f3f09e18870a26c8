import Winnow.Lexeme.Reading
import Winnow.Text.Hexadecimal

/-!
Indices: whole numbers without a suffix, which name the members of a tuple. An index of a member of
a member may be written like a fraction, with a point between the two.
-/

namespace Winnow

structure WholeNumber where
  value : Nat
  suffix : List Char

namespace WholeNumber

/-- An exponent stands after its letter: a sign, or a digit with nothing but a name after all the
digits. -/
def isExponent (text : List Char) : Bool :=
  let digits := text.takeWhile fun c => c.isDigit || c == '_'
  match text.dropWhile fun c => c.isDigit || c == '_' with
  | c :: _ => c == '-' || c == '+' || digits.any Char.isDigit
  | [] => digits.any Char.isDigit

def ofDigits (base : Nat) (text : List Char) : WholeNumber :=
  let isPart (c : Char) : Bool := c == '_' || (Text.hexValue? c).any (· < base)
  let digits := text.takeWhile isPart
  { value := (digits.filterMap Text.hexValue?).foldl (fun n d => base * n + d) 0
    suffix := text.dropWhile isPart }

/-- The whole number that a number is, unless it has a point or an exponent. -/
def ofText? (text : List Char) : Option WholeNumber :=
  match text with
  | '0' :: 'x' :: rest => some (ofDigits 16 rest)
  | '0' :: 'o' :: rest => some (ofDigits 8 rest)
  | '0' :: 'b' :: rest => some (ofDigits 2 rest)
  | _ =>
    let number := ofDigits 10 text
    match number.suffix with
    | '.' :: _ => none
    | c :: rest => if (c = 'e' ∨ c = 'E') && isExponent rest then none else some number
    | [] => some number

def index (text : List Char) : Except SyntaxFault Lexeme :=
  match ofText? text with
  | none => .error (.expected ["integer literal"] false)
  | some number =>
    if !number.suffix.isEmpty then .error .suffixedIndex
    else if number.value < Nat.pow 2 32 then .ok (.literal .number (toString number.value))
    else .error .outsizedIndex

def parts (part : List Char) : List Char → List (List Char)
  | [] => [part.reverse]
  | c :: rest => if c = '.' then part.reverse :: parts [] rest else parts (c :: part) rest

def indices (text : List Char) : Except SyntaxFault (List Lexeme) :=
  match text.getLast? with
  | some '.' => (parts [] text.dropLast).mapM index
  | _ => (parts [] text).mapM index

end WholeNumber

namespace Reading

def seesWholeNumber : Reading Bool := do
  match ← ahead with
  | .literal .number source :: _ => return (WholeNumber.ofText? source.toList).isSome
  | .mark '-' _ :: .literal .number source :: _ =>
    return (WholeNumber.ofText? source.toList).isSome
  | _ => return false

def memberIndex : Reading (List Lexeme) := do
  match ← ahead with
  | .literal .number source :: _ =>
    skip
    match WholeNumber.index source.toList with
    | .ok index => return [index]
    | .error fault => throw fault
  | _ => throw .negativeIndex

end Reading

structure MemberPhrase where
  phrase : List Lexeme
  isNamed : Bool

namespace Reading

def member : Reading MemberPhrase := do
  if ← seesName then return ⟨[← name], true⟩
  else if ← seesWholeNumber then return ⟨← memberIndex, false⟩
  else expected ["identifier", "integer"]

end Reading

end Winnow
