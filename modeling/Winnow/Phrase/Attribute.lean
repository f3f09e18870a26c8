import Winnow.Phrase.Path

/-!
Attributes: what stands in square brackets after a hash sign. An attribute is a plain path and a
list or a value after it. Outer attributes stand before what they describe, inner ones within its
braces.
-/

namespace Winnow

inductive AttributeContent where
  | none
  | value (phrase : Phrase)
  | list (brackets : Brackets) (content : List Lexeme)
deriving Inhabited

structure Attribute where
  path : Phrase
  content : AttributeContent
deriving Inhabited

namespace Attribute

def contentLexemes : AttributeContent → Phrase
  | .none => []
  | .value phrase => Lexeme.operator "=" ++ phrase
  | .list brackets content => [.group brackets content]

def bracketed (a : Attribute) : Lexeme := .group .square (a.path ++ contentLexemes a.content)

def lexemes (a : Attribute) : Phrase := Lexeme.operator "#" ++ [a.bracketed]

/-- The attribute as it describes the braces that it stands in. -/
def innerLexemes (a : Attribute) : Phrase :=
  Lexeme.operator "#" ++ Lexeme.operator "!" ++ [a.bracketed]

/-- The path of the attribute is one plain name. -/
def isNamed (a : Attribute) (name : String) : Bool :=
  match a.path with
  | [.name false text] => text == name
  | _ => false

open Reading

/-- Reads what stands in an attribute after its path. A list is taken as it stands in the source. -/
def readContent (g : Grammar) : Reading AttributeContent := do
  match ← ahead with
  | .group brackets content :: _ =>
    skip
    return .list brackets content
  | _ =>
    match ← optional "=" with
    | [] => return .none
    | _ =>
      let next ← ahead
      if Lexeme.beginWith "#" next && Lexeme.beginWithGroup .square (next.drop 1) then
        throw .nestedAttribute
      else return .value (← g.expression true).phrase

def read (g : Grammar) : Reading Attribute := do
  let path ← do
    match ← optionalWord "unsafe" with
    | [] => Phrase.plainPath g.limit
    | word => pure word
  return ⟨path, ← readContent g⟩

def readAll (g : Grammar) : Nat → Reading (List Attribute)
  | 0 => return []
  | n + 1 => do
    match ← optional "#" with
    | [] => return []
    | _ =>
      let first ← inGroup .square (read g)
      return first :: (← readAll g n)

def readAllInner (g : Grammar) : Nat → Reading (List Attribute)
  | 0 => return []
  | n + 1 => do
    let next ← ahead
    if Lexeme.beginWith "#" next && Lexeme.beginWith "!" (next.drop 1) then
      skip
      skip
      let first ← inGroup .square (read g)
      return first :: (← readAllInner g n)
    else return []

end Attribute

namespace Phrase

open Reading

def attributes (g : Grammar) : Reading Phrase :=
  return (← Attribute.readAll g g.limit).flatMap Attribute.lexemes

def innerAttributes (g : Grammar) : Reading Phrase :=
  return (← Attribute.readAllInner g g.limit).flatMap Attribute.innerLexemes

def block (g : Grammar) : Reading Phrase := grouped .curly g.statements

def describedBlock (g : Grammar) : Reading Phrase :=
  grouped .curly (return (← innerAttributes g) ++ (← g.statements))

end Phrase

end Winnow
