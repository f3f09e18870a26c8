import Winnow.Phrase.Generics

/-!
Declarations of types: their attributes, their generic parameters, and their fields or variants.
-/

namespace Winnow

/-- A name that is declared. A raw one is written with a mark that is not part of it. -/
structure Identifier where
  text : String
  isRaw : Bool := false
deriving DecidableEq, Inhabited

namespace Identifier

def lexeme (i : Identifier) : Lexeme := .name i.isRaw i.text

def written (i : Identifier) : String := if i.isRaw then "r#" ++ i.text else i.text

end Identifier

structure Field where
  attributes : List Attribute
  visibility : Phrase := []
  name : Identifier
  type : Phrase
deriving Inhabited

def Field.lexemes (f : Field) : Phrase :=
  f.attributes.flatMap Attribute.lexemes ++ f.visibility ++ f.name.lexeme ::
    Lexeme.operator ":" ++ f.type

structure PositionalField where
  attributes : List Attribute
  visibility : Phrase
  type : Phrase

def PositionalField.lexemes (f : PositionalField) : Phrase :=
  f.attributes.flatMap Attribute.lexemes ++ f.visibility ++ f.type

inductive Fields where
  | named (fields : List Field) (endsWithComma : Bool)
  | positional (fields : List PositionalField) (endsWithComma : Bool)
  | unit

def Fields.lexemes : Fields → Phrase
  | named fields endsWithComma =>
    [.group .curly (Phrase.withCommas endsWithComma (fields.map Field.lexemes))]
  | positional fields endsWithComma =>
    [.group .round (Phrase.withCommas endsWithComma (fields.map PositionalField.lexemes))]
  | unit => []

structure EnumVariant where
  attributes : List Attribute
  name : Identifier
  fields : Fields
  discriminant : Option Phrase := none

def EnumVariant.lexemes (v : EnumVariant) : Phrase :=
  v.attributes.flatMap Attribute.lexemes ++ v.name.lexeme :: v.fields.lexemes ++
    match v.discriminant with
    | none => []
    | some value => Lexeme.operator "=" ++ value

inductive Body where
  | struct (fields : Fields)
  | enum (variants : List EnumVariant) (endsWithComma : Bool)
  | union (fields : List Field) (endsWithComma : Bool)

structure Declaration where
  attributes : List Attribute
  visibility : Phrase
  name : Identifier
  generics : Generics
  body : Body

namespace Declaration

def word : Body → String
  | .struct _ => "struct"
  | .enum _ _ => "enum"
  | .union _ _ => "union"

/-- What is declared, with what is required of the parameters. Constraints follow positional fields
and precede others. -/
def bodyLexemes (g : Generics) : Body → Phrase
  | .struct (.named fields endsWithComma) =>
    g.conditions ++ (Fields.named fields endsWithComma).lexemes
  | .struct fields => fields.lexemes ++ g.conditions ++ Lexeme.operator ";"
  | .enum variants endsWithComma =>
    g.conditions ++
      [.group .curly (Phrase.withCommas endsWithComma (variants.map EnumVariant.lexemes))]
  | .union fields endsWithComma => g.conditions ++ (Fields.named fields endsWithComma).lexemes

/-- The declaration as it is written, without its attributes. -/
def lexemes (d : Declaration) : Phrase :=
  d.visibility ++ .word (word d.body) :: d.name.lexeme :: d.generics.declared ++
    bodyLexemes d.generics d.body

end Declaration

end Winnow
