import Winnow.Declaration.Implementation
import Winnow.Text.Blank
import Winnow.Text.Words

/-!
The paths of an entity: for a struct with named fields, a module with a path to each field and to
the entity itself, and the identity of the entity if a field is marked as it.
-/

namespace Winnow

structure StructSettings where
  style : Option Text.NameStyle := none
  library : Option Phrase := none

namespace StructSettings

def apply (s : StructSettings) (e : Entry) : Except DeriveFault StructSettings := do
  let (key, rest) ← e.key
  if key = some "rename_all" then
    let (value, rest) ← e.text rest
    match Text.NameStyle.ofText? value.text with
    | none => throw (.unknownStyle value.text)
    | some style =>
      Entry.finish rest
      return { s with style := some style }
  else if key = some "crate" then return { s with library := some (← e.library rest) }
  else throw .unknownTypeKey

end StructSettings

structure FieldSettings where
  /-- The expression for the field in place of its name. -/
  expression : Option String := none
  isId : Bool := false
  isSkipped : Bool := false

namespace FieldSettings

def apply (s : FieldSettings) (e : Entry) : Except DeriveFault FieldSettings := do
  let (key, rest) ← e.key
  if key = some "id" then
    Entry.finish rest
    return { s with isId := true }
  else if key = some "skip" then
    Entry.finish rest
    return { s with isSkipped := true }
  else if key = some "rename" then
    let (value, rest) ← e.text rest
    Entry.finish rest
    return { s with expression := some value.text }
  else throw .unknownFieldKey

end FieldSettings

structure PathField where
  name : Identifier
  type : Phrase
  expression : String
  isId : Bool
  isSkipped : Bool

section Convert

variable (convert : Text.Conversion)

def Identifier.styled (i : Identifier) : Option Text.NameStyle → String
  | none => i.text
  | some style => convert style i.text

def Field.toPathField (style : Option Text.NameStyle) (f : Field) :
    Except DeriveFault PathField := do
  let s ← Attribute.settings "safepred" FieldSettings.apply {} f.attributes
  let expression := s.expression.getD (f.name.styled convert style)
  if (Text.trim expression).isEmpty then throw .blankExpression
  else return ⟨f.name, f.type, expression, s.isId, s.isSkipped⟩

end Convert

structure Accessor where
  name : Identifier
  type : Phrase
  expression : String

structure PathModule where
  visibility : Phrase
  name : String
  owner : Owner
  accessors : List Accessor
  identity : Option Identifier

/-- A text is a name, whether or not it is reserved. -/
def checkName (text : String) : Except NameFault String :=
  if text.isEmpty then .error .empty
  else if text.toList.all Char.isDigit then .error .number
  else if Text.isIdentifier text.toList then .ok text
  else .error (.illegal text)

def moduleName (convert : Text.Conversion) (owner : Identifier) : Except NameFault String :=
  checkName (convert .snake owner.text)

namespace PathModule

def namedFields : Body → Except DeriveFault (List Field)
  | .struct (.named fields _) => .ok fields
  | .struct _ => .error .notNamedFields
  | _ => .error .notStruct

/-- The field that identifies the entity, of which there is at most one. -/
def identityOf (fields : List PathField) : Except DeriveFault (Option Identifier) :=
  match fields.filter (·.isId) with
  | [] => .ok none
  | [field] => .ok (some field.name)
  | _ => .error .severalIds

section Convert

variable (convert : Text.Conversion) (d : Declaration)

def build (name : String) : Except DeriveFault PathModule := do
  let declared ← namedFields d.body
  let settings ← Attribute.settings "safepred" StructSettings.apply {} d.attributes
  let fields ← declared.mapM (Field.toPathField convert settings.style)
  if fields.any (·.name.text == "this") then throw .pathClash
  else
    let identity ← identityOf fields
    return {
      visibility := d.visibility
      name
      owner := ⟨d.name, d.generics, settings.library.getD Phrase.library⟩
      accessors := (fields.filter (!·.isSkipped)).map fun f => ⟨f.name, f.type, f.expression⟩
      identity }

/-- The module for a declaration. Its name is made before anything else is looked at. -/
def derive : Except DeriveFailure PathModule :=
  match moduleName convert d.name with
  | .error fault => .error (.brokenOff fault)
  | .ok name =>
    match build convert d name with
    | .error fault => .error (.refused fault)
    | .ok m => .ok m

end Convert

def ofDeclaration (d : Declaration) : Except DeriveFailure PathModule :=
  derive Text.NameStyle.convert d

open Phrase

/-- A function without arguments that returns a path from the owner to a type. -/
def pathFunction (o : Owner) (text name : Lexeme) (type body : Phrase) : Phrase :=
  documented text ++ annotated [.word "inline"] ++
    [.word "pub", .word "fn", name] ++ call o.generics.introduced [] ++ Lexeme.operator "->" ++
    member o.library "FieldPath" ++ Lexeme.operator "<" ++ o.type ++ Lexeme.operator "," ++ type ++
    Lexeme.operator ">" ++ o.generics.conditions ++ [.group .curly body]

def made (o : Owner) (name : String) (arguments : Phrase) : Phrase :=
  call (member (member o.library "FieldPath") name) arguments

def accessorLexemes (o : Owner) (a : Accessor) : Phrase :=
  pathFunction o (.text ("Path to \x60" ++ a.expression ++ "\x60.")) a.name.lexeme a.type
    (made o "new" [.text a.expression])

def elementLexemes (o : Owner) : Phrase :=
  let text := " Path to the evaluated element itself."
  pathFunction o (.literal (.text text "") ("r\"" ++ text ++ "\"")) (.word "this") o.type
    (made o "this" [])

def identityLexemes (o : Owner) : Option Identifier → Phrase
  | none => []
  | some field =>
    o.bindImplementation (o.bindCall (.word "self" :: Lexeme.operator "." ++ [field.lexeme]))

def lexemes (m : PathModule) : Phrase :=
  documented (.text ("Field paths for [\x60" ++ m.owner.name.written ++ "\x60].")) ++
    annotated (call [.word "allow"] [.word "dead_code"]) ++ m.visibility ++
    [.word "mod", .word m.name,
      .group .curly
        (.word "use" :: .word "super" :: Lexeme.operator "::" ++ Lexeme.operator "*" ++
          Lexeme.operator ";" ++ m.accessors.flatMap (accessorLexemes m.owner) ++
          elementLexemes m.owner)] ++
    identityLexemes m.owner m.identity

end PathModule

end Winnow
