import Winnow.Declaration.Reader
import Winnow.Phrase.Function

/-!
Items: what a block or a module declares. Items that are well formed only for a moment, until they
are expanded, are taken as they stand in the source.
-/

namespace Winnow.Phrase

open Reading

structure ItemPhrase where
  phrase : Phrase
  isVerbatim : Bool := false

def itemBlock (g : Grammar) (item : Reading Phrase) : Reading Phrase :=
  grouped .curly (return (← innerAttributes g) ++ (← phrasesToEnd item g.limit))

/-- Reads an item after its attributes, given what was ahead before them. -/
def completed (start : List Lexeme) (described : Phrase) (item : Reading ItemPhrase) :
    Reading Phrase := do
  let found ← item
  if found.isVerbatim then readSince start else return described ++ found.phrase

def colonBounds (g : Grammar) (ends : Reading Bool) : Reading Phrase := do
  match ← optional ":" with
  | [] => return []
  | colon =>
    match ← plusList ends (return (← bound g false true).phrase) g.limit with
    | [] => return []
    | found => return colon ++ found

/-- Reads a function, which may lack its body. Then it is taken as it stands in the source. -/
def function (g : Grammar) : Reading ItemPhrase := do
  let head ← functionHead g false
  match ← optional ";" with
  | [] => return { phrase := head.phrase ++ (← describedBlock g) }
  | _ => return { phrase := [], isVerbatim := true }

/-- Reads a constant after its word. One without a value or with parameters is taken as it stands in
the source. -/
def constantItem (g : Grammar) (requiresValue : Bool) : Reading ItemPhrase := do
  let word ← requiredWord "const"
  let found ← nameOr ["_"]
  let generics ← Generics.readParameters g
  let colon ← required ":"
  let type ← g.type true
  let value ← do
    match ← optional "=" with
    | [] => pure []
    | mark => pure (mark ++ (← g.expression true).phrase)
  let generics ← generics.readConstraints g
  let mark ← required ";"
  return {
    phrase := word ++ found :: colon ++ type.phrase ++ value ++ mark
    isVerbatim := generics.isListed || generics.isConstrained || requiresValue && value.isEmpty }

/-- Reads a static value. One without a type or a value is taken as it stands in the source. -/
def staticItem (g : Grammar) : Reading ItemPhrase := do
  let word ← requiredWord "static"
  let mutability ← optionalWord "mut"
  let found ← name
  let type ← do
    if ← sees "=" then pure []
    else
      let colon ← required ":"
      pure (colon ++ (← g.type true).phrase)
  let value ← do
    if ← sees ";" then pure []
    else
      let mark ← required "="
      pure (mark ++ (← g.expression true).phrase)
  let mark ← required ";"
  return {
    phrase := word ++ mutability ++ found :: type ++ value ++ mark
    isVerbatim := type.isEmpty || value.isEmpty }

structure TypeItem where
  head : Phrase
  bounds : Phrase
  hasColon : Bool
  definition : Phrase
  conditions : Phrase

inductive ConstraintPlace where
  | early
  | late
  | either
deriving DecidableEq

def typeItem (g : Grammar) (place : ConstraintPlace) : Reading TypeItem := do
  let word ← requiredWord "type"
  let found ← name
  let generics ← Generics.readParameters g
  let hasColon ← sees ":"
  let ends : Reading Bool := return (← seesWord "where") || (← sees "=") || (← sees ";")
  let bounds ← colonBounds g ends
  let early ← if place = .late then pure generics else generics.readConstraints g
  let definition ← do
    match ← optional "=" with
    | [] => pure []
    | mark => pure (mark ++ (← g.type true).phrase)
  let late ← do
    if place = .early || early.isConstrained then pure early else early.readConstraints g
  let _ ← required ";"
  return {
    head := word ++ found :: generics.declared
    bounds, hasColon, definition
    conditions := late.conditions }

def linkage : Reading Phrase := do
  let word ← requiredWord "extern"
  let crate ← requiredWord "crate"
  let found ← nameOr ["self"]
  let renamed ← do
    match ← optionalWord "as" with
    | [] => pure []
    | mark => pure (mark ++ [← nameOr ["_"]])
  return word ++ crate ++ found :: renamed ++ (← required ";")

/-- Names that are imported, and whether some of them begin at the root. -/
structure ImportPhrase where
  phrase : Phrase
  hasRoot : Bool := false

/-- Reads names that are imported. Each may begin at the root if the argument says so. -/
def imports (limit : Nat) : Nat → Bool → Reading ImportPhrase
  | 0, _ => throw .unreadable
  | n + 1, allowsRoot => do
    if (← seesName) || (← seesAnyWord ["self", "super", "crate", "try"]) then
      let first ← anyName
      if ← sees "::" then
        let separator ← required "::"
        let rest ← imports limit n false
        return { phrase := first :: separator ++ rest.phrase }
      else if ← seesWord "as" then
        skip
        if (← seesName) || (← seesWord "_") then
          return { phrase := [first, .word "as", ← anyName] }
        else expected ["identifier or underscore"]
      else return { phrase := [first] }
    else if ← sees "*" then return { phrase := ← required "*" }
    else
      let inner : Reading (List (Phrase × Bool) × Bool) := commaListToEnd (do
        let root ← if allowsRoot then optional "::" else pure []
        let found ← imports limit n (allowsRoot && root.isEmpty)
        return (found.phrase, found.hasRoot || !root.isEmpty)) limit
      if ← seesGroup .curly then
        let (items, endsWithComma) ← inGroup .curly inner
        return {
          phrase := [.group .curly (withCommas endsWithComma (items.map (·.1)))]
          hasRoot := items.any (·.2) }
      else
        expected ("identifier" ::
          (["self", "super", "crate", "try", "*"].map SyntaxFault.marked ++ ["curly braces"]))

/-- Reads an import. Names that begin at the root within braces are taken as they stand in the
source. -/
def importItem (g : Grammar) : Reading ItemPhrase := do
  let word ← requiredWord "use"
  let root ← optional "::"
  let found ← imports g.limit g.limit root.isEmpty
  let mark ← required ";"
  return { phrase := word ++ root ++ found.phrase ++ mark, isVerbatim := found.hasRoot }

/-- An expansion can begin that stands for items. -/
def beginExpansion (lexemes : List Lexeme) : Bool :=
  beginPath lexemes && !Lexeme.beginWithWord ["Self"] lexemes

def expansionItem (g : Grammar) (allowsName : Bool) : Reading ItemPhrase := do
  let path ← plainPath g.limit
  let bang ← required "!"
  let found ← do
    if allowsName && ((← seesName) || (← seesWord "try")) then pure [← anyName] else pure []
  let arguments ← anyGroup
  let isCurly := Lexeme.beginWithGroup .curly [arguments]
  let mark ← if isCurly then pure [] else required ";"
  return { phrase := path ++ bang ++ found ++ arguments :: mark }

def implementationItem (g : Grammar) : Reading Phrase := do
  let start ← ahead
  let described ← attributes g
  completed start described do
    let visibility ← visibilityMark g.limit
    let next ← ahead
    let isDefault := Lexeme.beginWithWord ["default"] next && !Lexeme.beginWith "!" (next.drop 1)
    let standard ← if isDefault then pure [← anyName] else pure []
    let front := visibility ++ standard
    let next ← ahead
    if beginFunction false next then
      let found ← function g
      return { found with phrase := front ++ found.phrase }
    else if Lexeme.beginWithWord ["const"] next then
      let found ← constantItem g true
      return { found with phrase := front ++ found.phrase }
    else if Lexeme.beginWithWord ["type"] next then
      let found ← typeItem g .late
      return {
        phrase := front ++ found.head ++ found.definition ++ found.conditions ++
          Lexeme.operator ";"
        isVerbatim := found.hasColon || found.definition.isEmpty }
    else if front.isEmpty && beginExpansion next then expansionItem g false
    else expectedWord ["fn", "const", "type"]

def traitItem (g : Grammar) : Reading Phrase := do
  let start ← ahead
  let described ← attributes g
  completed start described do
    let visibility ← visibilityMark g.limit
    let standard ← optionalWord "default"
    let isVerbatim := !visibility.isEmpty || !standard.isEmpty
    let next ← ahead
    if beginFunction false next then
      let head ← functionHead g false
      match ← optional ";" with
      | [] => return { phrase := head.phrase ++ (← describedBlock g), isVerbatim }
      | mark => return { phrase := head.phrase ++ mark, isVerbatim }
    else if Lexeme.beginWithWord ["const"] next then
      let found ← constantItem g false
      return { found with isVerbatim := isVerbatim || found.isVerbatim }
    else if Lexeme.beginWithWord ["type"] next then
      let found ← typeItem g .late
      return {
        phrase := found.head ++ found.bounds ++ found.definition ++ found.conditions ++
          Lexeme.operator ";"
        isVerbatim }
    else if !isVerbatim && beginExpansion next then expansionItem g false
    else expectedWord ["fn", "const", "type"]

def foreignItem (g : Grammar) : Reading Phrase := do
  let start ← ahead
  let described ← attributes g
  completed start described do
    let visibility ← visibilityMark g.limit
    let next ← ahead
    let isMarked := Lexeme.beginWithWord ["unsafe", "safe"] next &&
      Lexeme.beginWithWord ["static"] (next.drop 1)
    if beginFunction true next then
      let head ← functionHead g true
      if ← seesGroup .curly then
        let _ ← describedBlock g
        return { phrase := [], isVerbatim := true }
      else
        return {
          phrase := visibility ++ head.phrase ++ (← required ";")
          isVerbatim := head.isSafe }
    else if Lexeme.beginWithWord ["static"] next || isMarked then
      if isMarked then skip
      let word ← requiredWord "static"
      let mutability ← optionalWord "mut"
      let found ← name
      let colon ← required ":"
      let type ← g.type true
      let hasValue ← sees "="
      if hasValue then
        skip
        let _ ← g.expression true
      let mark ← required ";"
      return {
        phrase := visibility ++ word ++ mutability ++ found :: colon ++ type.phrase ++ mark
        isVerbatim := isMarked || hasValue }
    else if Lexeme.beginWithWord ["type"] next then
      let found ← typeItem g .either
      return {
        phrase := visibility ++ found.head ++ found.conditions ++ Lexeme.operator ";"
        isVerbatim := found.hasColon || !found.definition.isEmpty }
    else if visibility.isEmpty && beginExpansion next then expansionItem g false
    else expectedWord ["fn", "static", "type"]

def foreignModule (g : Grammar) : Reading ItemPhrase := do
  let safety ← optionalWord "unsafe"
  if ← seesWord "extern" then
    let convention ← convention
    return { phrase := safety ++ convention ++ (← itemBlock g (foreignItem g)) }
  else expectedWord ["extern"]

def moduleItem (g : Grammar) : Reading ItemPhrase := do
  let safety ← optionalWord "unsafe"
  let word ← requiredWord "mod"
  let found ← nameOr ["try"]
  let head := safety ++ word ++ [found]
  if ← sees ";" then return { phrase := head ++ (← required ";") }
  else
    let item : Reading Phrase := do
      let start ← ahead
      g.item start (← attributes g)
    return { phrase := head ++ (← itemBlock g item) }

/-- Reads a trait, or another name for bounds. -/
def traitDeclaration (g : Grammar) : Reading ItemPhrase := do
  let safety ← optionalWord "unsafe"
  let auto ← optionalWord "auto"
  let word ← requiredWord "trait"
  let found ← name
  let generics ← Generics.readParameters g
  let head := safety ++ auto ++ word ++ found :: generics.declared
  if safety.isEmpty && auto.isEmpty && (← sees "=") then
    let mark ← required "="
    let ends : Reading Bool := return (← seesWord "where") || (← sees ";")
    let bounds ← plusList ends (return (← bound g false true).phrase) g.limit
    let generics ← generics.readConstraints g
    return { phrase := head ++ mark ++ bounds ++ generics.conditions ++ (← required ";") }
  else
    let ends : Reading Bool := return (← seesWord "where") || (← seesGroup .curly)
    let bounds ← colonBounds g ends
    let generics ← generics.readConstraints g
    return { phrase := head ++ bounds ++ generics.conditions ++ (← itemBlock g (traitItem g)) }

def implementation (g : Grammar) : Reading ItemPhrase := do
  let standard ← optionalWord "default"
  let safety ← optionalWord "unsafe"
  let word ← requiredWord "impl"
  let generics ← if Generics.beginParameters (← ahead) then Generics.readParameters g else pure {}
  let next ← ahead
  let isConstant := Lexeme.beginWithWord ["const"] next ||
    Lexeme.beginWith "?" next && Lexeme.beginWithWord ["const"] (next.drop 1)
  if isConstant then
    let _ ← optional "?"
    skip
  let isNegative := Lexeme.beginWith "!" (← ahead) &&
    !Lexeme.beginWithGroup .curly ((← ahead).drop 1)
  let polarity ← if isNegative then required "!" else pure []
  let next ← ahead
  let first ← g.type true
  let isOfTrait ← seesWord "for"
  if !isOfTrait && isNegative then throw .negativeImplementation
  else
    let target ← do
      match ← optionalWord "for" with
      | [] => pure []
      | word => pure (word ++ (← g.type true).phrase)
    let generics ← generics.readConstraints g
    let items ← itemBlock g (implementationItem g)
    let isPath := beginPath next && first.bound.isSome
    return {
      phrase := standard ++ safety ++ word ++ generics.declared ++ polarity ++ first.phrase ++
        target ++ generics.conditions ++ items
      isVerbatim := isConstant || isOfTrait && !isPath }

def expansionDefinition : Reading ItemPhrase := do
  skip
  let _ ← name
  if ← seesGroup .round then skip
  if ← seesGroup .curly then
    skip
    return { phrase := [], isVerbatim := true }
  else expected ["parentheses", "curly braces"]

def itemAfter (g : Grammar) (visibility : Phrase) : Reading ItemPhrase := do
  let next ← ahead
  let rest := next.drop 1
  let begins (words : List String) : Bool := Lexeme.beginWithWord words next
  let visible (item : Reading ItemPhrase) : Reading ItemPhrase := do
    let found ← item
    return { found with phrase := visibility ++ found.phrase }
  let beginsTrait (lexemes : List Lexeme) : Bool :=
    Lexeme.beginWithWord ["trait"] lexemes ||
      Lexeme.beginWithWord ["auto"] lexemes && Lexeme.beginWithWord ["trait"] (lexemes.drop 1)
  let hiddenOnly (item : Reading ItemPhrase) : Reading ItemPhrase :=
    if visibility.isEmpty then item else expectedWord ["extern"]
  let implementing : Reading ItemPhrase := do
    let found ← implementation g
    return { found with isVerbatim := found.isVerbatim || !visibility.isEmpty }
  if beginFunction false next then visible (function g)
  else if begins ["extern"] then
    if Lexeme.beginWithWord ["crate"] rest then visible (return { phrase := ← linkage })
    else hiddenOnly (foreignModule g)
  else if begins ["use"] then visible (importItem g)
  else if begins ["static"] then visible (staticItem g)
  else if begins ["const"] then visible (constantItem g true)
  else if begins ["unsafe"] then
    if beginsTrait rest then visible (traitDeclaration g)
    else if Lexeme.beginWithWord ["impl"] rest then implementing
    else if Lexeme.beginWithWord ["extern"] rest then hiddenOnly (foreignModule g)
    else if Lexeme.beginWithWord ["mod"] rest then visible (moduleItem g)
    else
      skip
      expectedWord ["trait", "impl", "extern", "mod"]
  else if begins ["mod"] then visible (moduleItem g)
  else if begins ["type"] then
    visible do
      let found ← typeItem g .early
      return {
        phrase := found.head ++ found.conditions ++ found.definition ++ Lexeme.operator ";"
        isVerbatim := found.hasColon || found.definition.isEmpty }
  else if begins ["struct", "enum"] || begins ["union"] && Lexeme.beginWithName rest then
    return { phrase := (← Declaration.readAfter g [] visibility).lexemes }
  else if beginsTrait next then visible (traitDeclaration g)
  else if begins ["impl"] || begins ["default"] && !Lexeme.beginWith "!" rest then implementing
  else if begins ["macro"] then expansionDefinition
  else if visibility.isEmpty && beginExpansion next then expansionItem g true
  else expectedWord ["fn", "extern", "use", "static", "const", "unsafe", "mod", "type"]

def item (g : Grammar) (start : List Lexeme) (described : Phrase) : Reading Phrase :=
  completed start described (return ← itemAfter g (← visibilityMark g.limit))

end Winnow.Phrase
