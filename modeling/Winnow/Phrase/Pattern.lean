import Winnow.Lexeme.Index
import Winnow.Phrase.Type

/-!
Patterns, which take values apart and name their parts.
-/

namespace Winnow.Phrase

open Reading

/-- A bar comes next that separates alternatives. -/
def seesBar : Reading Bool := return (← sees "|") && !(← sees "||") && !(← sees "|=")

def moreAlternatives (g : Grammar) : Nat → Reading Phrase
  | 0 => return []
  | n + 1 => do
    if ← seesBar then
      let bar ← required "|"
      let next ← g.pattern
      return bar ++ next.phrase ++ (← moreAlternatives g n)
    else return []

/-- Reads a pattern that may have alternatives and a bar before the first of them. -/
def alternatives (g : Grammar) : Reading PatternPhrase := do
  let leading ← optional "|"
  let first ← g.pattern
  let others ← moreAlternatives g g.limit
  if leading.isEmpty && others.isEmpty then return first
  else return { phrase := leading ++ first.phrase ++ others }

def constantBlock (g : Grammar) : Reading Phrase := do
  let word ← requiredWord "const"
  return word ++ (← describedBlock g)

def expansion (path : Phrase) : Reading Phrase := do
  let bang ← required "!"
  return path ++ bang ++ [← anyGroup]

def seesExpansion (path : PathPhrase) : Reading Bool :=
  return !path.isQualified && path.isPlain && (← sees "!") && !(← sees "!=")

def rangeBound (g : Grammar) : Reading Phrase := do
  let isAbsent := (← atEnd) || (← sees "|") || (← sees "=") || (← sees ":") && !(← sees "::") ||
    (← sees ",") || (← sees ";") || (← seesWord "if")
  if isAbsent then return []
  else if ← seesLiteral then literal
  else if ← seesPathStart then return (← qualifiedPath g true).phrase
  else if ← seesWord "const" then constantBlock g
  else
    expected (["literal", "identifier"] ++
      ["::", "<", "self", "Self", "super", "crate", "const"].map SyntaxFault.marked)

/-- Reads a range after its start. Three points stand for a range with its end. -/
def rangePattern (g : Grammar) (start : Phrase) : Reading PatternPhrase := do
  let isClosed := (← sees "..=") || (← sees "...")
  if isClosed then
    let _ ← optional "..="
    let _ ← optional "..."
    match ← rangeBound g with
    | [] => expected ["range upper bound"]
    | last => return { phrase := start ++ Lexeme.operator "..=" ++ last }
  else
    let points ← required ".."
    match ← rangeBound g with
    | [] => return { phrase := start ++ points, shape := .openRange }
    | last => return { phrase := start ++ points ++ last }

/-- Reads a range without a start, or what stands for the remaining parts. -/
def leadingRange (g : Grammar) : Reading PatternPhrase := do
  match ← optional "..=" with
  | [] =>
    let points ← required ".."
    match ← rangeBound g with
    | [] => return { phrase := points }
    | last => return { phrase := points ++ last, shape := .openRange }
  | points =>
    match ← rangeBound g with
    | [] => expected ["range upper bound"]
    | last => return { phrase := points ++ last, shape := .openRange }

/-- Reads a member of a record with the pattern for it. A name may stand for both. -/
def memberPattern (g : Grammar) : Reading Phrase := do
  let start ← ahead
  let boxed ← optionalWord "box"
  let reference ← optionalWord "ref"
  let mutability ← optionalWord "mut"
  if boxed.isEmpty && reference.isEmpty && mutability.isEmpty then
    let found ← member
    if (← sees ":") || !found.isNamed then
      let colon ← required ":"
      return found.phrase ++ colon ++ (← alternatives g).phrase
    else return found.phrase
  else
    let found ← name
    if boxed.isEmpty then return reference ++ mutability ++ [found] else readSince start

/-- Reads the members of a record. Two points may stand for the remaining ones. -/
def memberPatterns (g : Grammar) : Nat → Reading Phrase
  | 0 => return []
  | n + 1 => do
    if ← atEnd then return []
    else
      let described ← attributes g
      match ← optional ".." with
      | [] =>
        let first ← memberPattern g
        if ← atEnd then return described ++ first
        else
          let comma ← required ","
          return described ++ first ++ comma ++ (← memberPatterns g n)
      | points => return described ++ points

def pathPattern (g : Grammar) : Reading PatternPhrase := do
  let path ← qualifiedPath g true
  if ← seesExpansion path then return { phrase := ← expansion path.phrase }
  else if ← seesGroup .curly then
    return { phrase := path.phrase ++ (← grouped .curly (memberPatterns g g.limit)) }
  else if ← seesGroup .round then
    let parts ← groupedList g .round (return (← alternatives g).phrase)
    return { phrase := path.phrase ++ parts }
  else if ← sees ".." then rangePattern g path.phrase
  else return { phrase := path.phrase }

def namePattern (g : Grammar) : Reading PatternPhrase := do
  let reference ← optionalWord "ref"
  let mutability ← optionalWord "mut"
  let found ← nameOr ["self"]
  match ← optional "@" with
  | [] => return { phrase := reference ++ mutability ++ [found] }
  | mark => return { phrase := reference ++ mutability ++ found :: mark ++ (← g.pattern).phrase }

def slicePart (g : Grammar) : Reading Phrase := do
  let found ← alternatives g
  if found.shape = .openRange then throw .openRange else return found.phrase

def beginPathPattern (lexemes : List Lexeme) : Bool :=
  let next := lexemes.drop 1
  Lexeme.beginWithName lexemes &&
      (Lexeme.beginWith "::" next || Lexeme.beginWith "!" next ||
        Lexeme.beginWithGroup .curly next || Lexeme.beginWithGroup .round next ||
        Lexeme.beginWith ".." next) ||
    Lexeme.beginWithWord ["self"] lexemes && Lexeme.beginWith "::" next ||
    Lexeme.beginWith "::" lexemes || Lexeme.beginWith "<" lexemes ||
    Lexeme.beginWithWord ["Self", "super", "crate"] lexemes

def pattern (g : Grammar) : Reading PatternPhrase := do
  let start ← ahead
  if beginPathPattern start then pathPattern g
  else if ← seesWord "_" then return { phrase := [← anyName] }
  else if ← seesWord "box" then
    skip
    let _ ← g.pattern
    return { phrase := ← readSince start, shape := .verbatim }
  else if (← sees "-") || (← seesLiteral) || (← seesWord "const") then
    let first ← rangeBound g
    if ← sees ".." then rangePattern g first else return { phrase := first }
  else if (← seesAnyWord ["ref", "mut", "self"]) || (← seesName) then namePattern g
  else if ← sees "&" then
    let mark ← required "&"
    let mutability ← optionalWord "mut"
    return { phrase := mark ++ mutability ++ (← g.pattern).phrase }
  else if ← seesGroup .round then
    return { phrase := ← groupedList g .round (return (← alternatives g).phrase) }
  else if ← seesGroup .square then return { phrase := ← groupedList g .square (slicePart g) }
  else if (← sees "..") && !(← sees "...") then leadingRange g
  else
    expected (["identifier"] ++ ["::", "<", "_"].map SyntaxFault.marked ++ ["literal"] ++
      ["const", "ref", "mut", "&"].map SyntaxFault.marked ++ ["parentheses", "square brackets"] ++
      ["..", "const"].map SyntaxFault.marked)

end Winnow.Phrase
