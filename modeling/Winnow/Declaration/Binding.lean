import Winnow.Declaration.Implementation

/-!
How the values of an enum are bound: as whole numbers if it has an integer type, else by name.
-/

namespace Winnow

def applyEnumEntry (_ : Option Phrase) (e : Entry) : Except DeriveFault (Option Phrase) := do
  let (key, rest) ← e.key
  if key = some "crate" then return some (← e.library rest) else throw .unknownTypeKey

def applyVariantEntry (_ : String) (e : Entry) : Except DeriveFault String := do
  let (key, rest) ← e.key
  if key = some "rename" then
    let (value, rest) ← e.text rest
    Entry.finish rest
    return value.text
  else throw .unknownVariantKey

def integerTypes : List String :=
  ["i8", "i16", "i32", "i64", "i128", "isize", "u8", "u16", "u32", "u64", "u128", "usize"]

/-- The entry of a representation, which may have arguments. The last integer type counts. -/
def applyLayoutEntry (integer : Option String) (e : Entry) :
    Except DeriveFault (Option String) := do
  let (key, rest) ← e.key
  let integer := match key with
    | some text => if integerTypes.contains text then some text else integer
    | none => integer
  match rest with
  | .group .round _ :: rest => Entry.finish rest
  | rest => Entry.finish rest
  return integer

inductive BoundForm where
  /-- Its discriminant as a number of an integer type. -/
  | discriminant (integer : String)
  | name (text : String)
deriving DecidableEq

structure BindingCase where
  variant : Identifier
  form : BoundForm

structure EnumBinding where
  owner : Owner
  cases : List BindingCase

namespace EnumBinding

def variantsOf : Body → Except DeriveFault (List EnumVariant)
  | .enum [] _ => .error .noVariant
  | .enum variants _ => .ok variants
  | _ => .error .notEnum

/-- The case of a variant. Its attributes are read only if it is bound by name. -/
def caseOf (integer : Option String) (v : EnumVariant) : Except DeriveFault BindingCase :=
  match v.fields, integer with
  | .unit, some integer => .ok ⟨v.name, .discriminant integer⟩
  | .unit, none => do
    return ⟨v.name, .name (← Attribute.settings "safepred" applyVariantEntry v.name.text
      v.attributes)⟩
  | _, _ => .error .variantWithFields

def ofDeclaration (d : Declaration) : Except DeriveFault EnumBinding := do
  let variants ← variantsOf d.body
  let library ← Attribute.settings "safepred" applyEnumEntry none d.attributes
  let integer ← Attribute.settings "repr" applyLayoutEntry none d.attributes
  let cases ← variants.mapM (caseOf integer)
  return ⟨⟨d.name, d.generics, library.getD Phrase.library⟩, cases⟩

open Phrase

def formLexemes (o : Owner) (variant : Phrase) : BoundForm → Phrase
  | .discriminant integer =>
    o.bindCall [.group .round (variant ++ [.word "as", .word integer])]
  | .name text =>
    let string := member (member (member (Lexeme.operator "::" ++ [.word "std"]) "string") "String")
      "from"
    call (member (member o.library "Argument") "String") (call string [.text text])

def caseLexemes (o : Owner) (c : BindingCase) : Phrase :=
  let variant := .word "Self" :: Lexeme.operator "::" ++ [c.variant.lexeme]
  variant ++ Lexeme.operator "=>" ++ formLexemes o variant c.form ++ Lexeme.operator ","

def lexemes (b : EnumBinding) : Phrase :=
  b.owner.bindImplementation
    [.word "match", .word "self", .group .curly (b.cases.flatMap (caseLexemes b.owner))]

end EnumBinding

end Winnow
