import Winnow.Lexeme.Lexer
import Winnow.Phrase.Grammar

/-!
Declarations and paths that source text states.
-/

namespace Winnow

namespace Declaration

def ofLexemes (lexemes : List Lexeme) : Except SyntaxFault Declaration :=
  Reading.runWhole (read (Grammar.forLexemes lexemes)) lexemes

def ofText? (source : String) : Option Declaration :=
  (Lexeme.ofText? source).bind fun lexemes => (ofLexemes lexemes).toOption

end Declaration

namespace Phrase

def pathOfText (source : String) : Except SyntaxFault Phrase := do
  match Lexeme.ofText? source with
  | none => throw .unreadable
  | some lexemes =>
    let g := Grammar.forLexemes lexemes
    return (← Reading.runWhole (path g false) lexemes).phrase

end Phrase

end Winnow
