import Winnow.Phrase.Basic

/-!
Plain paths: names with separators between them.
-/

namespace Winnow.Phrase

open Reading

/-- Words that a path may hold although they are reserved. -/
def pathWords : List String := ["super", "self", "Self", "crate"]

/-- A path that begins with a name or a separator can begin with the first lexeme. -/
def beginPath (lexemes : List Lexeme) : Bool :=
  Lexeme.beginWithName lexemes || Lexeme.beginWithWord pathWords lexemes ||
    Lexeme.beginWith "::" lexemes

def seesPathStart : Reading Bool := return beginPath (← ahead) || (← sees "<")

def morePlainNames : Nat → Reading Phrase
  | 0 => return []
  | n + 1 => do
    match ← optional "::" with
    | [] => return []
    | separator =>
      if (← seesName) || (← seesAnyWord pathWords) then
        let next ← anyName
        return separator ++ next :: (← morePlainNames n)
      else expected ["path segment after " ++ SyntaxFault.marked "::"]

def plainPath (n : Nat) : Reading Phrase := do
  let root ← optional "::"
  let first ← nameOr pathWords
  return root ++ first :: (← morePlainNames n)

end Winnow.Phrase
