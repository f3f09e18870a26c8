import Winnow.Lexeme.Basic

/-!
Reading lexemes from the front of a list. A reader returns its result with the lexemes that are
left, or says what it expected.
-/

namespace Winnow

inductive SyntaxFault where
  /-- One of some things was expected, perhaps at the end of the lexemes. -/
  | expected (choices : List String) (isEnd : Bool)
  | missing (operator : String)
  | reserved (word : String)
  | leftover (brackets : Option Brackets)
  | unreadable
  | suffixed (suffix : String)
  | literalEntry
  /-- An entry of an attribute begins with something that is no name. -/
  | strangeEntry
  | nestedAttribute
  | noObjectTrait
  | noOpaqueTrait
  | misplacedCapture
  | misplacedConstant (mark : String)
  | relaxedBinder
  | constraintParameters
  | chainedComparison
  /-- Something follows a cast that cannot. -/
  | afterCast (what : String)
  | rangeAttributes
  /-- A range without an end or a start stands among the items of a pattern. -/
  | openRange
  | suffixedIndex
  | outsizedIndex
  | negativeIndex
  | bareLabel
  /-- A statement is followed by another one without a semicolon. -/
  | unfinishedStatement
  | secondReceiver
  | lateReceiver
  | negativeImplementation
deriving DecidableEq

namespace SyntaxFault

def listing : List String → String
  | [] => "unexpected token"
  | [choice] => "expected " ++ choice
  | [first, second] => "expected " ++ first ++ " or " ++ second
  | choices => "expected one of: " ++ Text.joined ", " choices

def marked (text : String) : String := "\x60" ++ text ++ "\x60"

def closing : Brackets → String
  | .round => ")"
  | .square => "]"
  | .curly => "\x7d"

def message : SyntaxFault → String
  | expected choices isEnd =>
    if isEnd then "unexpected end of input, " ++ listing choices else listing choices
  | missing operator => "expected " ++ marked operator
  | reserved word => "expected identifier, found keyword " ++ marked word
  | leftover none => "unexpected token"
  | leftover (some brackets) => "unexpected token, expected " ++ marked (closing brackets)
  | unreadable => "cannot parse string into token stream"
  | suffixed suffix => "unexpected suffix " ++ marked suffix ++ " on string literal"
  | literalEntry => "unexpected literal in nested attribute, expected ident"
  | strangeEntry => "unexpected token in nested attribute, expected ident"
  | nestedAttribute => "unexpected attribute inside of attribute"
  | noObjectTrait => "at least one trait is required for an object type"
  | noOpaqueTrait => "at least one trait must be specified"
  | misplacedCapture => marked "use<...>" ++ " precise capturing syntax is not allowed here"
  | misplacedConstant mark => marked mark ++ " is not allowed here"
  | relaxedBinder =>
    marked "for<...>" ++ " binder not allowed with " ++ marked "?" ++ " trait polarity modifier"
  | constraintParameters =>
    "generic parameters on " ++ marked "where" ++ " clauses are reserved for future use"
  | chainedComparison => "comparison operators cannot be chained"
  | afterCast what => "casts cannot be followed by " ++ what
  | rangeAttributes =>
    "attributes are not allowed on range expressions starting with " ++ marked ".."
  | openRange => "range pattern is not allowed unparenthesized inside slice pattern"
  | suffixedIndex => "expected unsuffixed integer"
  | outsizedIndex => "number too large to fit in target type"
  | negativeIndex => "invalid digit found in string"
  | bareLabel => "parentheses required"
  | unfinishedStatement => "unexpected token, expected " ++ marked ";"
  | secondReceiver => "unexpected second method receiver"
  | lateReceiver => "unexpected method receiver"
  | negativeImplementation => "inherent impls cannot be negative"

end SyntaxFault

namespace Lexeme

def afterMarks? : List Char → List Lexeme → Option (List Lexeme)
  | [], lexemes => some lexemes
  | [c], .mark d _ :: rest => if c = d then some rest else none
  | c :: more, .mark d isJoint :: rest =>
    if c = d && isJoint then afterMarks? more rest else none
  | _, _ => none

def after? (operator : String) (lexemes : List Lexeme) : Option (List Lexeme) :=
  afterMarks? operator.toList lexemes

def beginWith (operator : String) (lexemes : List Lexeme) : Bool :=
  (after? operator lexemes).isSome

def firstWord? : List Lexeme → Option String
  | .name false text :: _ => some text
  | _ => none

def beginWithWord (words : List String) (lexemes : List Lexeme) : Bool :=
  (firstWord? lexemes).any words.contains

def isFreeName : Lexeme → Bool
  | .name isRaw text => isRaw || isFree text
  | _ => false

def beginWithName (lexemes : List Lexeme) : Bool := lexemes.head?.any isFreeName

def beginWithLifetime : List Lexeme → Bool
  | .lifetime _ :: _ => true
  | _ => false

def firstGroup? (brackets : Brackets) : List Lexeme → Option (List Lexeme)
  | .group found content :: _ => if found = brackets then some content else none
  | _ => none

def beginWithGroup (brackets : Brackets) (lexemes : List Lexeme) : Bool :=
  (firstGroup? brackets lexemes).isSome

/-- The literal that comes first, with a minus sign if one stands before a number. -/
def firstLiteral? : List Lexeme → Option (List Lexeme × List Lexeme)
  | .literal kind source :: rest => some ([.literal kind source], rest)
  | .mark '-' _ :: .literal .number source :: rest =>
    some ([.mark '-' false, .literal .number source], rest)
  | .name false text :: rest =>
    if text = "true" ∨ text = "false" then some ([word text], rest) else none
  | _ => none

def beginWithLiteral (lexemes : List Lexeme) : Bool := (firstLiteral? lexemes).isSome

end Lexeme

structure Cursor where
  lexemes : List Lexeme
  /-- The brackets of the first group of which something was left unread. -/
  leftover : Option Brackets := none

abbrev Reading (α : Type) := StateT Cursor (Except SyntaxFault) α

namespace Reading

/-- The next lexemes, which stay unread. -/
def ahead : Reading (List Lexeme) := return (← get).lexemes

def resume (lexemes : List Lexeme) : Reading Unit := modify fun c => { c with lexemes }

def expected {α : Type} (choices : List String) : Reading α := do
  throw (.expected choices (← ahead).isEmpty)

def expectedWord {α : Type} (words : List String) : Reading α :=
  expected (words.map SyntaxFault.marked)

def skip : Reading Unit := do resume ((← ahead).drop 1)

def atEnd : Reading Bool := return (← ahead).isEmpty

/-- What was read since other lexemes were ahead, the way it stands in the source. -/
def readSince (before : List Lexeme) : Reading (List Lexeme) := do
  return before.take (before.length - (← ahead).length)

def sees (operator : String) : Reading Bool := return Lexeme.beginWith operator (← ahead)

/-- Reads an operator if it comes next, and returns its lexemes. -/
def optional (operator : String) : Reading (List Lexeme) := do
  match Lexeme.after? operator (← ahead) with
  | some rest =>
    resume rest
    return Lexeme.operator operator
  | none => return []

def required (operator : String) : Reading (List Lexeme) := do
  match ← optional operator with
  | [] => throw (.missing operator)
  | marks => return marks

def seesAnyWord (words : List String) : Reading Bool :=
  return Lexeme.beginWithWord words (← ahead)

def seesWord (word : String) : Reading Bool := seesAnyWord [word]

def optionalWord (word : String) : Reading (List Lexeme) := do
  if ← seesWord word then
    skip
    return [.word word]
  else return []

def requiredWord (word : String) : Reading (List Lexeme) := do
  match ← optionalWord word with
  | [] => expectedWord [word]
  | lexemes => return lexemes

def seesAnyName : Reading Bool := do
  match ← ahead with
  | .name _ _ :: _ => return true
  | _ => return false

def seesName : Reading Bool := return Lexeme.beginWithName (← ahead)

def anyName : Reading Lexeme := do
  match ← ahead with
  | .name isRaw text :: _ =>
    skip
    return .name isRaw text
  | _ => expected ["ident"]

def name : Reading Lexeme := do
  match ← ahead with
  | .name isRaw text :: _ =>
    if isRaw || Lexeme.isFree text then
      skip
      return .name isRaw text
    else throw (.reserved text)
  | _ => expected ["identifier"]

def nameOr (words : List String) : Reading Lexeme := do
  if ← seesAnyWord words then anyName else name

def seesLifetime : Reading Bool := return Lexeme.beginWithLifetime (← ahead)

def lifetime : Reading Lexeme := do
  match ← ahead with
  | .lifetime text :: _ =>
    skip
    return .lifetime text
  | _ => expected ["lifetime"]

def optionalLifetime : Reading (List Lexeme) := do
  if ← seesLifetime then return [← lifetime] else return []

def seesGroup (brackets : Brackets) : Reading Bool :=
  return Lexeme.beginWithGroup brackets (← ahead)

def bracketsName : Brackets → String
  | .round => "parentheses"
  | .square => "square brackets"
  | .curly => "curly braces"

def group (brackets : Brackets) : Reading (List Lexeme) := do
  match Lexeme.firstGroup? brackets (← ahead) with
  | some content =>
    skip
    return content
  | none => expected [bracketsName brackets]

def anyGroup : Reading Lexeme := do
  match ← ahead with
  | .group brackets content :: _ =>
    skip
    return .group brackets content
  | _ => expected ["delimiter"]

/-- Reads other lexemes in place of those ahead, the content of a group. That something is left of
them counts only where all else can be read, and only once. -/
def within {α : Type} (brackets : Brackets) (content : List Lexeme) (reader : Reading α) :
    Reading α := do
  let outer ← ahead
  resume content
  let result ← reader
  modify fun c =>
    { lexemes := outer
      leftover := c.leftover.or (if c.lexemes.isEmpty then none else some brackets) }
  return result

def inGroup {α : Type} (brackets : Brackets) (reader : Reading α) : Reading α := do
  within brackets (← group brackets) reader

def grouped (brackets : Brackets) (reader : Reading (List Lexeme)) : Reading (List Lexeme) := do
  return [.group brackets (← inGroup brackets reader)]

/-- Reads something if that is possible, and else nothing. -/
def attempt? {α : Type} (reader : Reading α) : Reading (Option α) := do
  match StateT.run reader (← get) with
  | .ok (result, c) =>
    set c
    return some result
  | .error _ => return none

/-- What a reader finds ahead and what it leaves, if it can read. Nothing is read. -/
def foresee? {α : Type} (reader : Reading α) : Reading (Option (α × List Lexeme)) := do
  match reader.run { lexemes := ← ahead } with
  | .ok (result, c) => return some (result, c.lexemes)
  | .error _ => return none

def run {α : Type} (reader : Reading α) (lexemes : List Lexeme) :
    Except SyntaxFault (α × List Lexeme) :=
  match StateT.run reader { lexemes } with
  | .ok (result, c) => .ok (result, c.lexemes)
  | .error fault => .error fault

def runWhole {α : Type} (reader : Reading α) (lexemes : List Lexeme) : Except SyntaxFault α :=
  match StateT.run reader { lexemes } with
  | .ok (result, ⟨[], none⟩) => .ok result
  | .ok (_, ⟨_, some brackets⟩) => .error (.leftover (some brackets))
  | .ok (_, ⟨_ :: _, none⟩) => .error (.leftover none)
  | .error fault => .error fault

def seesLiteral : Reading Bool := return Lexeme.beginWithLiteral (← ahead)

def literal : Reading (List Lexeme) := do
  match Lexeme.firstLiteral? (← ahead) with
  | some (lexemes, rest) =>
    resume rest
    return lexemes
  | none => expected ["literal"]

/-- Items with a comma between neighbours and perhaps one at the end, as long as there are any. The
number bounds how many there can be. -/
def commaList {α : Type} (hasItem : Reading Bool) (item : Reading α) :
    Nat → Reading (List α × Bool)
  | 0 => return ([], false)
  | n + 1 => do
    if ← hasItem then
      let first ← item
      if (← optional ",").isEmpty then return ([first], false)
      else
        let (others, hasComma) ← commaList hasItem item n
        return (first :: others, others.isEmpty || hasComma)
    else return ([], false)

def commaListUntil {α : Type} (ends : Reading Bool) (item : Reading α) :
    Nat → Reading (List α × Bool)
  | 0 => return ([], false)
  | n + 1 => do
    if ← ends then return ([], false)
    else
      let first ← item
      if ← ends then return ([first], false)
      else
        let _ ← required ","
        let (others, hasComma) ← commaListUntil ends item n
        return (first :: others, others.isEmpty || hasComma)

def commaListToEnd {α : Type} (item : Reading α) (n : Nat) : Reading (List α × Bool) :=
  commaListUntil atEnd item n

def plusList (ends : Reading Bool) (item : Reading (List Lexeme)) : Nat → Reading (List Lexeme)
  | 0 => return []
  | n + 1 => do
    if ← ends then return []
    else
      let first ← item
      match ← optional "+" with
      | [] => return first
      | plus => return first ++ plus ++ (← plusList ends item n)

def phrasesToEnd (item : Reading (List Lexeme)) : Nat → Reading (List Lexeme)
  | 0 => return []
  | n + 1 => do
    if ← atEnd then return []
    else return (← item) ++ (← phrasesToEnd item n)

end Reading

end Winnow
