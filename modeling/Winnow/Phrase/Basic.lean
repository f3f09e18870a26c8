import Winnow.Lexeme.Reading

/-!
Phrases: the lexemes of a type, a pattern, an expression or a statement, spaced the way they are
written. What the reader of a phrase tells besides its lexemes is what the phrases around it need to
know. A grammar holds the readers of the phrases that occur within phrases.
-/

namespace Winnow

abbrev Phrase := List Lexeme

namespace Phrase

def withCommas (endsWithComma : Bool) : List Phrase → Phrase
  | [] => []
  | [item] => item ++ if endsWithComma then Lexeme.operator "," else []
  | item :: rest => item ++ Lexeme.operator "," ++ withCommas endsWithComma rest

/-- Phrases in the order in which they were read, with the commas that were read. -/
def listed (items : List Phrase × Bool) : Phrase := withCommas items.2 items.1

/-- Lifetimes stand before what else is listed. -/
def lifetimesFirst (items : List (Bool × Phrase)) (endsWithComma : Bool) : Phrase :=
  let (lifetimes, others) := items.partition (·.1)
  let moved := !lifetimes.isEmpty && !others.isEmpty && items.getLast?.any (·.1)
  withCommas (endsWithComma || moved) ((lifetimes ++ others).map (·.2))

end Phrase

structure PathPhrase where
  phrase : Phrase
  /-- The path without the arguments of its last name. -/
  stem : Phrase := []
  /-- It begins with a type in angle brackets. -/
  isQualified : Bool := false
  isRooted : Bool := false
  length : Nat := 0
  /-- No name has angle brackets after it. -/
  isPlain : Bool := true
  isApplied : Bool := false

structure TypePhrase where
  phrase : Phrase
  /-- It is one name, perhaps with arguments, to which something may be assigned. -/
  isSimple : Bool := false
  /-- The bound that it states, without parentheses around it, if it is a path or a single bound. -/
  bound : Option Phrase := none

structure BoundPhrase where
  phrase : Phrase
  isTrait : Bool

inductive PatternShape where
  | openRange
  /-- It is taken as it stands in the source. -/
  | verbatim
  | other
deriving DecidableEq

structure PatternPhrase where
  phrase : Phrase
  shape : PatternShape := .other

inductive ExpressionShape where
  /-- It ends with a block that may end a statement or a case. -/
  | block
  /-- Arguments in curly braces that are expanded. -/
  | curlyExpansion
  | range
  | comparison
  | verbatim
  | other
deriving DecidableEq

structure ExpressionPhrase where
  phrase : Phrase
  shape : ExpressionShape := .other

/-- How tightly an operator binds its operands, the loosest first. -/
inductive Precedence where
  | jump
  | assignment
  | range
  | disjunction
  | conjunction
  | binding
  | comparison
  | bitOr
  | bitXor
  | bitAnd
  | shift
  | sum
  | product
  | cast
deriving DecidableEq

def Precedence.rank : Precedence → Nat
  | jump => 0
  | assignment => 1
  | range => 2
  | disjunction => 3
  | conjunction => 4
  | binding => 5
  | comparison => 6
  | bitOr => 7
  | bitXor => 8
  | bitAnd => 9
  | shift => 10
  | sum => 11
  | product => 12
  | cast => 13

/-- Readers of the phrases that occur within phrases. -/
structure Grammar where
  /-- More than any list has items. -/
  limit : Nat
  /-- Reads a type, which may consist of several bounds if the argument says so. -/
  type : Bool → Reading TypePhrase
  /-- Reads a bound. The arguments say whether it may capture lifetimes and whether it may be
  constant. -/
  bound : Bool → Bool → Reading BoundPhrase
  pattern : Reading PatternPhrase
  /-- Reads an expression, which may begin with a record if the argument says so. -/
  expression : Bool → Reading ExpressionPhrase
  operand : Bool → Reading ExpressionPhrase
  /-- Reads what follows an operand, as far as the operators bind as tightly as given. -/
  operation : Bool → Precedence → ExpressionPhrase → Reading ExpressionPhrase
  /-- Reads an expression that ends where a block at its front does, after its attributes. -/
  clause : Phrase → Reading ExpressionPhrase
  statements : Reading Phrase
  /-- Reads an item after its attributes, given what was ahead before them. -/
  item : List Lexeme → Phrase → Reading Phrase

namespace Phrase

open Reading

def groupedList (g : Grammar) (brackets : Brackets) (item : Reading Phrase) : Reading Phrase :=
  grouped brackets (return listed (← commaListToEnd item g.limit))

end Phrase

end Winnow
