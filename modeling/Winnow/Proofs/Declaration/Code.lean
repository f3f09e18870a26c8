import Winnow.Proofs.Declaration.Regrouping

/-!
Generated code, lexeme by lexeme: the functions that return paths, the module around them, and the
statement of what values are bound to.
-/

namespace Winnow

namespace Phrase

/-- Names of a path, with a separator before each. -/
def members (names : List String) : Phrase :=
  names.flatMap fun name => [.mark ':' true, .mark ':' false, .name false name]

/-- The literal of a text, which is read back as it stands (`Lexeme.readLiteral?_text`). -/
def quoted (value : String) : Lexeme :=
  .literal (.text value "") (String.ofList ('"' :: Lexeme.escapeText value.toList ++ ['"']))

/-- `#[doc = …]` -/
def doc (text : Lexeme) : Phrase :=
  [.mark '#' false, .group .square [.name false "doc", .mark '=' false, text]]

end Phrase

open Phrase

namespace Declaration

variable (d : Declaration)

def applied : Phrase := .name d.name.isRaw d.name.text :: d.generics.applied

/-- `impl Bindable for … { fn bind(&self) -> Argument { … } }` -/
def bindImpl (body : Phrase) : Phrase :=
  .name false "impl" :: d.generics.introduced ++ d.library ++ members ["Bindable"] ++
    .name false "for" :: d.applied ++ d.generics.conditions ++
    [.group .curly
      (.name false "fn" :: .name false "bind" ::
        .group .round [.mark '&' false, .name false "self"] ::
        .mark '-' true :: .mark '>' false :: d.library ++ members ["Argument"] ++
        [.group .curly body])]

/-- `Bindable::bind(&…)` -/
def bindCall (expression : Phrase) : Phrase :=
  d.library ++ members ["Bindable", "bind"] ++ [.group .round (.mark '&' false :: expression)]

/-- `#[doc = …] #[inline] pub fn …() -> FieldPath<…, …> { FieldPath::…(…) }` -/
def pathFn (text name : Lexeme) (type : Phrase) (maker : String) (arguments : Phrase) : Phrase :=
  doc text ++
    .mark '#' false :: .group .square [.name false "inline"] ::
    .name false "pub" :: .name false "fn" :: name :: d.generics.introduced ++
    .group .round [] :: .mark '-' true :: .mark '>' false :: d.library ++ members ["FieldPath"] ++
    .mark '<' false :: d.applied ++ .mark ',' false :: type ++ .mark '>' false ::
    d.generics.conditions ++
    [.group .curly (d.library ++ members ["FieldPath", maker] ++ [.group .round arguments])]

def fieldFn (f : Field) (expression : String) : Phrase :=
  d.pathFn (quoted ("Path to \x60" ++ expression ++ "\x60.")) (.name f.name.isRaw f.name.text)
    f.type "new" [quoted expression]

def thisFn : Phrase :=
  let text := " Path to the evaluated element itself."
  d.pathFn (.literal (.text text "") ("r\"" ++ text ++ "\"")) (.name false "this") d.applied
    "this" []

/-- `mod … { use super::*; … }` -/
def pathMod (name : String) (functions : Phrase) : Phrase :=
  doc (quoted ("Field paths for [\x60" ++ d.name.written ++ "\x60].")) ++
    .mark '#' false ::
    .group .square [.name false "allow", .group .round [.name false "dead_code"]] ::
    d.visibility ++
    [.name false "mod", .name false name,
      .group .curly
        (.name false "use" :: .name false "super" :: .mark ':' true :: .mark ':' false ::
          .mark '*' false :: .mark ';' false :: functions)]

/-- What the fields that identify the entity are good for, if there is one. -/
def identityImpl : List Field → Phrase
  | [f] =>
    d.bindImpl (d.bindCall [.name false "self", .mark '.' false, .name f.name.isRaw f.name.text])
  | _ => []

end Declaration

/-! ### The code of bindings and of modules -/

theorem Phrase.member_eq (owner : Phrase) (name : String) :
    member owner name = owner ++ members [name] := by
  rw [member, List.append_assoc]
  rfl

theorem Phrase.documented_eq (text : Lexeme) : documented text = doc text := rfl

theorem Phrase.text_eq (value : String) : Lexeme.text value = quoted value := rfl

namespace Declaration

variable {d : Declaration}

theorem owner_bindImplementation (body : Phrase) :
    d.owner.bindImplementation body = d.bindImpl body := by
  simp [Owner.bindImplementation, bindImpl, member_eq, Owner.type, owner, applied, call, receiver,
    members, Lexeme.word, Lexeme.operator, Lexeme.operatorMarks, Identifier.lexeme]

theorem owner_bindCall (expression : Phrase) :
    d.owner.bindCall expression = d.bindCall expression := by
  simp [Owner.bindCall, bindCall, member_eq, owner, call, members, Lexeme.operator,
    Lexeme.operatorMarks]

theorem pathFunction_eq (text name : Lexeme) (type : Phrase) (maker : String)
    (arguments : Phrase) :
    PathModule.pathFunction d.owner text name type (PathModule.made d.owner maker arguments) =
      d.pathFn text name type maker arguments := by
  simp [PathModule.pathFunction, PathModule.made, pathFn, documented_eq, annotated, member_eq,
    Owner.type, owner, applied, call, members, Lexeme.word, Lexeme.operator, Lexeme.operatorMarks,
    Identifier.lexeme]

theorem accessorLexemes_eq (f : Field) (expression : String) :
    PathModule.accessorLexemes d.owner ⟨f.name, f.type, expression⟩ = d.fieldFn f expression :=
  pathFunction_eq ..

theorem elementLexemes_eq : PathModule.elementLexemes d.owner = d.thisFn :=
  pathFunction_eq ..

theorem lexemes_eq {m : PathModule} (owner : m.owner = d.owner)
    (visibility : m.visibility = d.visibility) :
    m.lexemes =
      d.pathMod m.name (m.accessors.flatMap (PathModule.accessorLexemes d.owner) ++ d.thisFn) ++
        PathModule.identityLexemes d.owner m.identity := by
  simp [PathModule.lexemes, pathMod, owner, visibility, elementLexemes_eq, documented_eq, text_eq,
    annotated, call, Lexeme.word, Lexeme.operator, Lexeme.operatorMarks]
  rfl

end Declaration

end Winnow
