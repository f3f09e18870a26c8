import Winnow.Declaration.Basic
import Winnow.Phrase.Bound

/-!
Reading declarations.
-/

namespace Winnow

namespace Phrase

open Reading

/-- Reads how far something can be seen. A group in parentheses may also begin a type. -/
def visibilityMark (n : Nat) : Reading Phrase := do
  match ← optionalWord "pub" with
  | [] => return []
  | word =>
    match Lexeme.firstGroup? .round (← ahead) with
    | some [.name false scope] =>
      if ["crate", "self", "super"].contains scope then
        skip
        return word ++ [.group .round [.word scope]]
      else return word
    | some (.name false "in" :: rest) =>
      skip
      return word ++ [.group .round (.word "in" :: (← within .round rest (plainPath n)))]
    | _ => return word

end Phrase

namespace Declaration

open Reading Phrase

def readIdentifier : Reading Identifier := do
  match ← Reading.name with
  | .name isRaw text => return ⟨text, isRaw⟩
  | _ => expected ["identifier"]

def readNamedList (g : Grammar) (field : Reading Field) : Reading (List Field × Bool) :=
  inGroup .curly (commaListToEnd field g.limit)

/-- Reads a field with a name. A blank may stand for the name, and what it has for a type may be
fields, which are taken as they stand in the source. -/
def readNamedField (g : Grammar) : Nat → Reading Field
  | 0 => throw .unreadable
  | n + 1 => do
    let attributes ← Attribute.readAll g g.limit
    let visibility ← visibilityMark g.limit
    if ← seesWord "_" then
      skip
      let _ ← required ":"
      let start ← ahead
      let isNested := Lexeme.beginWithWord ["struct"] start ||
        Lexeme.beginWithWord ["union"] start && Lexeme.beginWithGroup .curly (start.drop 1)
      let name : Identifier := { text := "_" }
      if isNested then
        skip
        let _ ← readNamedList g (readNamedField g n)
        return { attributes, visibility, name, type := ← readSince start }
      else return { attributes, visibility, name, type := (← g.type true).phrase }
    else
      let name ← readIdentifier
      let _ ← required ":"
      return { attributes, visibility, name, type := (← g.type true).phrase }

def readNamedFields (g : Grammar) : Reading (List Field × Bool) :=
  readNamedList g (readNamedField g g.limit)

def readPositionalField (g : Grammar) : Reading PositionalField := do
  let attributes ← Attribute.readAll g g.limit
  let visibility ← visibilityMark g.limit
  return ⟨attributes, visibility, (← g.type true).phrase⟩

def readPositionalFields (g : Grammar) : Reading Fields := do
  let (fields, endsWithComma) ←
    inGroup .round (commaListToEnd (readPositionalField g) g.limit)
  return .positional fields endsWithComma

/-- Reads a variant. How far it can be seen does not matter. -/
def readVariant (g : Grammar) : Reading EnumVariant := do
  let attributes ← Attribute.readAll g g.limit
  let _ ← visibilityMark g.limit
  let name ← readIdentifier
  let fields ← do
    if ← seesGroup .curly then
      let (fields, endsWithComma) ← readNamedFields g
      pure (.named fields endsWithComma)
    else if ← seesGroup .round then readPositionalFields g
    else pure .unit
  match ← optional "=" with
  | [] => return { attributes, name, fields }
  | _ =>
    return { attributes, name, fields, discriminant := some (← g.expression true).phrase }

/-- Reads the fields of a struct. Constraints follow positional fields and precede named ones. -/
def readStruct (g : Grammar) (generics : Generics) : Reading (Generics × Body) := do
  if ← seesGroup .round then
    let fields ← readPositionalFields g
    let generics ← generics.readConstraints g
    let _ ← required ";"
    return (generics, .struct fields)
  else
    let generics ← generics.readConstraints g
    if ← seesGroup .curly then
      let (fields, endsWithComma) ← readNamedFields g
      return (generics, .struct (.named fields endsWithComma))
    else
      let _ ← required ";"
      return (generics, .struct .unit)

def declarationWords : List String := ["struct", "enum", "union"]

def readAfter (g : Grammar) (attributes : List Attribute) (visibility : Phrase) :
    Reading Declaration := do
  let isStruct ← seesWord "struct"
  let isEnum ← seesWord "enum"
  let isUnion ← seesWord "union"
  if isStruct || isEnum || isUnion then
    skip
    let name ← readIdentifier
    let generics ← Generics.readParameters g
    if isStruct then
      let (generics, body) ← readStruct g generics
      return ⟨attributes, visibility, name, generics, body⟩
    else
      let generics ← generics.readConstraints g
      if isEnum then
        let (variants, endsWithComma) ← inGroup .curly (commaListToEnd (readVariant g) g.limit)
        return ⟨attributes, visibility, name, generics, .enum variants endsWithComma⟩
      else
        let (fields, endsWithComma) ← readNamedFields g
        return ⟨attributes, visibility, name, generics, .union fields endsWithComma⟩
  else expectedWord declarationWords

def read (g : Grammar) : Reading Declaration := do
  let attributes ← Attribute.readAll g g.limit
  let visibility ← visibilityMark g.limit
  readAfter g attributes visibility

end Declaration

end Winnow
