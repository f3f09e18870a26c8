import Winnow.Declaration.Fault
import Winnow.Declaration.Source

/-!
Entries of attributes. An entry is a path and what belongs to it, and a comma stands between
entries. The settings that attributes make are gathered entry by entry, so that it does not matter
how entries are spread over attributes.
-/

namespace Winnow

structure Entry where
  lexemes : List Lexeme
  /-- A comma follows the entry. -/
  hasComma : Bool

namespace Entry

def isComma : Lexeme → Bool
  | .mark ',' _ => true
  | _ => false

/-- The entries of a list. The last one may be followed by a comma. -/
def split : List Lexeme → List Entry
  | [] => []
  | lexeme :: rest =>
    if isComma lexeme then ⟨[], true⟩ :: split rest
    else
      match split rest with
      | [] => [⟨[lexeme], false⟩]
      | next :: others => { next with lexemes := lexeme :: next.lexemes } :: others

/-- What a reader finds in lexemes of the entry. They do not end the list if a comma follows. -/
def run {α : Type} (e : Entry) (reader : Reading α) (lexemes : List Lexeme) :
    Except DeriveFault (α × List Lexeme) :=
  match Reading.run reader lexemes with
  | .ok result => .ok result
  | .error (.expected choices isEnd) =>
    .error (.syntaxFault (.expected choices (isEnd && !e.hasComma)))
  | .error fault => .error (.syntaxFault fault)

open Reading

def readPathRest : Nat → Reading Bool
  | 0 => return false
  | n + 1 => do
    match ← optional "::" with
    | [] => return false
    | _ =>
      let _ ← anyName
      let _ ← readPathRest n
      return true

/-- Reads the path of an entry. It is a key if it is one plain name. -/
def readKey (e : Entry) : Reading (Option String) := do
  let root ← optional "::"
  if ← seesAnyName then
    let first ← anyName
    let isLonger ← readPathRest e.lexemes.length
    match first with
    | .name false text => return if root.isEmpty && !isLonger then some text else none
    | _ => return none
  else if ← atEnd then
    if e.hasComma then throw .strangeEntry else expected ["nested attribute"]
  else if ← seesLiteral then throw .literalEntry
  else throw .strangeEntry

def key (e : Entry) : Except DeriveFault (Option String × List Lexeme) := e.run e.readKey e.lexemes

structure TextValue where
  text : String
  suffix : String

def readText : Reading TextValue := do
  let _ ← required "="
  match ← ahead with
  | .literal (.text value suffix) _ :: _ =>
    skip
    return ⟨value, suffix⟩
  | _ => expected ["string literal"]

def text (e : Entry) (rest : List Lexeme) : Except DeriveFault (TextValue × List Lexeme) :=
  e.run readText rest

def finish (rest : List Lexeme) : Except DeriveFault Unit :=
  if rest.isEmpty then .ok () else .error (.syntaxFault (.missing ","))

end Entry

def Entry.TextValue.path (value : Entry.TextValue) : Except SyntaxFault Phrase := do
  let found ← Phrase.pathOfText value.text
  if value.suffix.isEmpty then return found else throw (.suffixed value.suffix)

namespace Attribute

def entries (name : String) (a : Attribute) : Except DeriveFault (List Entry) :=
  match a.content with
  | .none => .error (.noEntries name)
  | .value _ => .error (.valueForEntries name)
  | .list _ content => .ok (Entry.split content)

/-- The settings after the attributes of a name, of which each entry makes one. Other attributes
make none. -/
def settings {σ : Type} (name : String) (apply : σ → Entry → Except DeriveFault σ) (initial : σ)
    (attributes : List Attribute) : Except DeriveFault σ :=
  (attributes.filter (·.isNamed name)).foldlM
    (fun s a => do (← a.entries name).foldlM apply s) initial

end Attribute

end Winnow
