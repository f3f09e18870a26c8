import Winnow.Lexeme.Reading

/-!
What can be wrong with a declaration from which code is to be generated.
-/

namespace Winnow

/-- Why nothing is generated for a declaration. -/
inductive DeriveFault where
  | notStruct
  | notNamedFields
  | notEnum
  | noVariant
  | variantWithFields
  | pathClash
  | severalIds
  | blankExpression
  | unknownStyle (value : String)
  | unknownTypeKey
  | unknownFieldKey
  | unknownVariantKey
  | noEntries (name : String)
  | valueForEntries (name : String)
  | syntaxFault (fault : SyntaxFault)
deriving DecidableEq

namespace DeriveFault

def attributeForm (name : String) : String := "#[" ++ name ++ "(...)]"

def message : DeriveFault → String
  | notStruct => "Entity derive only supports structs"
  | notNamedFields => "Entity derive only supports structs with named fields"
  | notEnum =>
    "Bindable derive only supports fieldless enums; implement Bindable by hand or mark an Entity id"
  | noVariant => "Bindable derive needs at least one variant"
  | variantWithFields => "Bindable derive only supports unit variants"
  | pathClash =>
    "a field named \x60this\x60 clashes with the generated \x60this()\x60 path; rename or skip it"
  | severalIds => "Entity supports at most one field marked with #[safepred(id)]"
  | blankExpression => "field expression must not be empty"
  | unknownStyle value => "unsupported rename_all value \x60" ++ value ++ "\x60"
  | unknownTypeKey => "unsupported safepred attribute"
  | unknownFieldKey => "unsupported safepred field attribute"
  | unknownVariantKey => "unsupported safepred variant attribute"
  | noEntries name =>
    "expected attribute arguments in parentheses: " ++ attributeForm name
  | valueForEntries name => "expected parentheses: " ++ attributeForm name
  | syntaxFault fault => fault.message

end DeriveFault

inductive NameFault where
  | empty
  | number
  | illegal (text : String)
deriving DecidableEq

def NameFault.message : NameFault → String
  | empty => "Ident is not allowed to be empty; use Option<Ident>"
  | number => "Ident cannot be a number; use Literal instead"
  | illegal text => Text.inspect text ++ " is not a valid Ident"

/-- Why deriving ends without code: a declaration is refused, or deriving breaks off because of a
name that it made itself. -/
inductive DeriveFailure where
  | refused (fault : DeriveFault)
  | brokenOff (fault : NameFault)
deriving DecidableEq

end Winnow
