import Winnow.Phrase.Item

/-!
The grammar of source text. Its readers call each other for the parts of a phrase; how deep that can
go is bounded beforehand, by the number of lexemes.
-/

namespace Winnow.Grammar

/-- The grammar for phrases whose parts nest no deeper than given. -/
def ofDepth (limit : Nat) : Nat → Grammar
  | 0 => {
      limit
      type := fun _ => throw .unreadable
      bound := fun _ _ => throw .unreadable
      pattern := throw .unreadable
      expression := fun _ => throw .unreadable
      operand := fun _ => throw .unreadable
      operation := fun _ _ _ => throw .unreadable
      clause := fun _ => throw .unreadable
      statements := throw .unreadable
      item := fun _ _ => throw .unreadable }
  | n + 1 => {
      limit
      type := fun allowsPlus c => Phrase.type (ofDepth limit n) allowsPlus c
      bound := fun allowsCapture allowsConstant c =>
        Phrase.bound (ofDepth limit n) allowsCapture allowsConstant c
      pattern := fun c => Phrase.pattern (ofDepth limit n) c
      expression := fun allowsRecord c => Phrase.expression (ofDepth limit n) allowsRecord c
      operand := fun allowsRecord c => Phrase.operand (ofDepth limit n) allowsRecord c
      operation := fun allowsRecord base operand c =>
        Phrase.operation (ofDepth limit n) allowsRecord base operand c
      clause := fun described c => Phrase.clause (ofDepth limit n) described c
      statements := fun c => Phrase.statements (ofDepth limit n) c
      item := fun start described c => Phrase.item (ofDepth limit n) start described c }

/-- The grammar for some lexemes. Where a phrase is part of another one, at most a few readers are
called before a lexeme is read. -/
def forLexemes (lexemes : List Lexeme) : Grammar :=
  let size := Lexeme.sizeAll lexemes + 1
  ofDepth size (8 * size)

end Winnow.Grammar
