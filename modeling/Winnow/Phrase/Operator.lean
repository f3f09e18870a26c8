import Winnow.Phrase.Type

/-!
Operators between operands. An operator that binds more tightly takes its operands first. Neither
comparisons nor ranges follow one another without parentheses.
-/

namespace Winnow

/-- The operators between two operands; of two that fit, the longer stands first. -/
def binaryOperators : List (String × Precedence) :=
  [("+=", .assignment), ("-=", .assignment), ("*=", .assignment), ("/=", .assignment),
   ("%=", .assignment), ("^=", .assignment), ("&=", .assignment), ("|=", .assignment),
   ("<<=", .assignment), (">>=", .assignment), ("&&", .conjunction), ("||", .disjunction),
   ("<<", .shift), (">>", .shift), ("==", .comparison), ("<=", .comparison), ("!=", .comparison),
   (">=", .comparison), ("+", .sum), ("-", .sum), ("*", .product), ("/", .product), ("%", .product),
   ("^", .bitXor), ("&", .bitAnd), ("|", .bitOr), ("<", .comparison), (">", .comparison)]

inductive Operation where
  | binary (operator : String) (precedence : Precedence)
  | assignment
  | range
  | cast
  | none

namespace Operation

def ofLexemes (lexemes : List Lexeme) : Operation :=
  match binaryOperators.find? fun o => Lexeme.beginWith o.1 lexemes with
  | some (operator, precedence) => binary operator precedence
  | Option.none =>
    if Lexeme.beginWith "=" lexemes && !Lexeme.beginWith "=>" lexemes then assignment
    else if Lexeme.beginWith ".." lexemes then range
    else if Lexeme.beginWithWord ["as"] lexemes then cast
    else none

def precedence : Operation → Precedence
  | binary _ p => p
  | assignment => .assignment
  | range => .range
  | cast => .cast
  | none => .jump

end Operation

namespace Phrase

open Reading

/-- Reads the operand after an operator, with what binds more tightly than that. Only assignments
group to the right. -/
def rightOperand (g : Grammar) (allowsRecord : Bool) (precedence : Precedence) :
    Reading ExpressionPhrase := do
  more g.limit (← g.operand allowsRecord)
where
  more : Nat → ExpressionPhrase → Reading ExpressionPhrase
    | 0, operand => return operand
    | n + 1, operand => do
      let next := (Operation.ofLexemes (← ahead)).precedence
      let isTighter := precedence.rank < next.rank ||
        next = .assignment && precedence = .assignment
      if isTighter && operand.shape ≠ .range then
        more n (← g.operation allowsRecord next operand)
      else return operand

/-- The operators that end a range, which then has no end. -/
def rangeEnds : List String :=
  [",", ";", "?", "=>", "=", "+", "/", "%", "^", ">", "<=", "!=", "-=", "*=", "&=", "|=", "<<="]

def rangePoints : Reading Phrase := do
  match ← optional "..=" with
  | [] => if ← sees "..." then expectedWord ["..", "..="] else required ".."
  | points => return points

/-- Reads a range after its start. Only one that excludes its end can lack it. -/
def range (g : Grammar) (allowsRecord : Bool) (start : Phrase) : Reading ExpressionPhrase := do
  let points ← rangePoints
  let next ← ahead
  let isOpen := points.length == 2 &&
    (next.isEmpty || rangeEnds.any (Lexeme.beginWith · next) ||
      Lexeme.beginWith "." next && !Lexeme.beginWith ".." next ||
      !allowsRecord && Lexeme.beginWithGroup .curly next || Lexeme.beginWithWord ["as"] next)
  if isOpen then return { phrase := start ++ points, shape := .range }
  else
    let last ← rightOperand g allowsRecord .range
    return { phrase := start ++ points ++ last.phrase, shape := .range }

/-- A cast is not followed by what could belong to the type. -/
def checkCast : Reading Unit := do
  let next ← ahead
  if Lexeme.beginWith "." next && !Lexeme.beginWith ".." next then
    let rest := next.drop 2
    if Lexeme.beginWithWord ["await"] (next.drop 1) then
      throw (.afterCast (SyntaxFault.marked ".await"))
    else if Lexeme.beginWithName (next.drop 1) &&
        (Lexeme.beginWithGroup .round rest || Lexeme.beginWith "::" rest) then
      throw (.afterCast "a method call")
    else throw (.afterCast "a field access")
  else if ← sees "?" then throw (.afterCast (SyntaxFault.marked "?"))
  else if ← seesGroup .square then throw (.afterCast "indexing")
  else if ← seesGroup .round then throw (.afterCast "a function call")

def operation (g : Grammar) (allowsRecord : Bool) (base : Precedence) (operand : ExpressionPhrase) :
    Reading ExpressionPhrase :=
  more g.limit operand
where
  more : Nat → ExpressionPhrase → Reading ExpressionPhrase
    | 0, operand => return operand
    | n + 1, operand => do
      let next := Operation.ofLexemes (← ahead)
      if operand.shape = .range || next.precedence.rank < base.rank then return operand
      else
        match next with
        | .binary operator precedence =>
          if precedence = .comparison && operand.shape = .comparison then throw .chainedComparison
          else
            let mark ← required operator
            let right ← rightOperand g allowsRecord precedence
            more n {
              phrase := operand.phrase ++ mark ++ right.phrase
              shape := if precedence = .comparison then .comparison else .other }
        | .assignment =>
          let mark ← required "="
          let right ← rightOperand g allowsRecord .assignment
          more n { phrase := operand.phrase ++ mark ++ right.phrase }
        | .range => more n (← range g allowsRecord operand.phrase)
        | .cast =>
          let word ← requiredWord "as"
          let target ← g.type false
          checkCast
          more n { phrase := operand.phrase ++ word ++ target.phrase }
        | .none => return operand

end Phrase

end Winnow
