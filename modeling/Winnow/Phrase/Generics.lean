import Winnow.Phrase.Application

/-!
Generic parameters and what is required of them.
-/

namespace Winnow

inductive ParameterKind where
  | lifetime
  | type
  | constant (type : Phrase)

structure Parameter where
  attributes : List Attribute
  name : Lexeme
  kind : ParameterKind
  bounds : Phrase := []
  byDefault : Phrase := []

namespace Parameter

def isLifetime (p : Parameter) : Bool :=
  match p.kind with
  | .lifetime => true
  | _ => false

def introduced (p : Parameter) : Phrase :=
  p.attributes.flatMap Attribute.lexemes ++
    match p.kind with
    | .constant type => .word "const" :: p.name :: Lexeme.operator ":" ++ type
    | _ => p.name :: if p.bounds.isEmpty then [] else Lexeme.operator ":" ++ p.bounds

def declared (p : Parameter) : Phrase :=
  p.introduced ++ if p.byDefault.isEmpty then [] else Lexeme.operator "=" ++ p.byDefault

open Reading Phrase

def readLifetimes (g : Grammar) : Reading Phrase :=
  plusList (return !(← seesLifetime)) (return [← Reading.lifetime]) g.limit

def readDefault (g : Grammar) (isConstant : Bool) : Reading Phrase := do
  match ← optional "=" with
  | [] => return []
  | _ =>
    if !isConstant then return (← g.type true).phrase
    else if ← seesName then return [← Reading.name]
    else if ← seesConstant then Phrase.constant g
    else expected ["literal", "identifier", "curly braces"]

/-- Reads a generic parameter. A blank may stand for its name if the argument says so. -/
def read (g : Grammar) (allowsBlank : Bool) : Reading Parameter := do
  let attributes ← Attribute.readAll g g.limit
  if ← seesLifetime then
    let name ← Reading.lifetime
    match ← optional ":" with
    | [] => return { attributes, name, kind := .lifetime }
    | _ => return { attributes, name, kind := .lifetime, bounds := ← readLifetimes g }
  else if ← seesWord "const" then
    skip
    let name ← Reading.name
    let _ ← required ":"
    let found ← g.type true
    let byDefault ← readDefault g true
    return { attributes, name, kind := .constant found.phrase, byDefault }
  else if ← seesName then
    let name ← Reading.name
    let ends : Reading Bool := return (← atEnd) || (← sees ",") || (← sees ">") || (← sees "=")
    let bounds ← do
      match ← optional ":" with
      | [] => pure []
      | _ => plusList ends (return (← g.bound false true).phrase) g.limit
    return { attributes, name, kind := .type, bounds, byDefault := ← readDefault g false }
  else if allowsBlank && (← seesWord "_") then
    return { attributes, name := ← anyName, kind := .type }
  else expected ["lifetime", "identifier", SyntaxFault.marked "const"]

end Parameter

structure Generics where
  parameters : List Parameter := []
  endsWithComma : Bool := false
  /-- There is a list of parameters, which may be empty. -/
  isListed : Bool := false
  constraints : List Phrase := []
  constraintsEndWithComma : Bool := false
  isConstrained : Bool := false

namespace Generics

/-- A list in angle brackets, which is nothing where there are no parameters. -/
def angled (g : Generics) (write : Parameter → Phrase) : Phrase :=
  if g.parameters.isEmpty then []
  else
    Lexeme.operator "<" ++
      Phrase.lifetimesFirst (g.parameters.map fun p => (p.isLifetime, write p)) g.endsWithComma ++
      Lexeme.operator ">"

def declared (g : Generics) : Phrase := g.angled Parameter.declared

def introduced (g : Generics) : Phrase := g.angled Parameter.introduced

def applied (g : Generics) : Phrase := g.angled fun p => [p.name]

def conditions (g : Generics) : Phrase :=
  if g.constraints.isEmpty then []
  else .word "where" :: Phrase.withCommas g.constraintsEndWithComma g.constraints

open Reading

/-- Generic parameters can begin, where a type in angle brackets can begin too. -/
def beginParameters (lexemes : List Lexeme) : Bool :=
  match Lexeme.after? "<" lexemes with
  | none => false
  | some inner =>
    let next := inner.drop 1
    Lexeme.beginWith ">" inner || Lexeme.beginWith "#" inner ||
      Lexeme.beginWithWord ["const"] inner ||
      (Lexeme.beginWithLifetime inner || Lexeme.beginWithName inner) &&
        (Lexeme.beginWith ">" next || Lexeme.beginWith "," next || Lexeme.beginWith "=" next ||
          Lexeme.beginWith ":" next && !Lexeme.beginWith "::" next)

def readParameters (g : Grammar) : Reading Generics := do
  match ← optional "<" with
  | [] => return {}
  | _ =>
    let (parameters, endsWithComma) ←
      commaListUntil (sees ">") (Parameter.read g true) g.limit
    let _ ← required ">"
    return { parameters, endsWithComma, isListed := true }

/-- Something else than a constraint or a bound comes next. -/
def seesEnd : Reading Bool := do
  return (← atEnd) || (← seesGroup .curly) || (← sees ",") || (← sees ";") ||
    (← sees ":") && !(← sees "::") || (← sees "=")

end Generics

namespace Phrase

open Reading

/-- Reads the parameters that a bound or a type is about, if there are any. -/
def binder (g : Grammar) : Reading Phrase := do
  match ← optionalWord "for" with
  | [] => return []
  | word =>
    let opening ← required "<"
    let parameter : Reading Phrase := return (← Parameter.read g false).declared
    let items ← commaListUntil (sees ">") parameter g.limit
    return word ++ opening ++ listed items ++ (← required ">")

end Phrase

namespace Generics

open Reading

def readConstraint (g : Grammar) : Reading Phrase := do
  let next ← ahead
  if Lexeme.beginWithLifetime next && Lexeme.beginWith ":" (next.drop 1) then
    let subject ← lifetime
    return subject :: (← required ":") ++ (← Parameter.readLifetimes g)
  else
    let binder ← Phrase.binder g
    let subject ← g.type true
    let mark ← required ":"
    let bounds ← plusList seesEnd (return (← g.bound false true).phrase) g.limit
    return binder ++ subject.phrase ++ mark ++ bounds

def readConstraints (g : Grammar) (generics : Generics) : Reading Generics := do
  match ← optionalWord "where" with
  | [] => return generics
  | _ =>
    if beginParameters (← ahead) then throw .constraintParameters
    else
      let (constraints, constraintsEndWithComma) ←
        commaList (return !(← seesEnd)) (readConstraint g) g.limit
      return { generics with constraints, constraintsEndWithComma, isConstrained := true }

end Generics

end Winnow
