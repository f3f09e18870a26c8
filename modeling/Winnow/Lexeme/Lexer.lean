import Winnow.Lexeme.Literal
import Winnow.Text.Blank

/-!
The lexemes of a source text. Blanks and comments separate lexemes and mean nothing else, but a
comment that documents becomes an attribute.
-/

namespace Winnow.Lexeme

open Text

/-- The characters before the end of the line. A carriage return before the line feed belongs to
the end of the line. -/
def cutLine (line : List Char) : List Char → Cut
  | [] => (line.reverse, [])
  | '\n' :: rest => (line.reverse, '\n' :: rest)
  | '\r' :: '\n' :: rest => (line.reverse, '\n' :: rest)
  | c :: rest => cutLine (c :: line) rest

/-- The characters of a comment after its opening marks, without its closing marks. Comments nest.
-/
def cutComment? (depth : Nat) (content : List Char) : List Char → Option Cut
  | [] => none
  | '*' :: '/' :: rest =>
    match depth with
    | 0 => some (content.reverse, rest)
    | outer + 1 => cutComment? outer ('/' :: '*' :: content) rest
  | '/' :: '*' :: rest => cutComment? (depth + 1) ('*' :: '/' :: content) rest
  | c :: rest => cutComment? depth (c :: content) rest

/-- White space of source text, with the two direction marks. -/
def isSpace (c : Char) : Bool := isBlank c || c == '\u200e' || c == '\u200f'

/-- What follows a blank or a comment that documents nothing. -/
def afterSpace? : List Char → Option (List Char)
  | '/' :: '/' :: '/' :: '/' :: rest => some (cutLine [] rest).2
  | '/' :: '/' :: '/' :: _ => none
  | '/' :: '/' :: '!' :: _ => none
  | '/' :: '/' :: rest => some (cutLine [] rest).2
  | '/' :: '*' :: '*' :: '/' :: rest => some rest
  | '/' :: '*' :: '*' :: '*' :: rest => (cutComment? 0 [] ('*' :: '*' :: rest)).map (·.2)
  | '/' :: '*' :: '*' :: _ => none
  | '/' :: '*' :: '!' :: _ => none
  | '/' :: '*' :: rest => (cutComment? 0 [] rest).map (·.2)
  | c :: rest => if isSpace c then some rest else none
  | [] => none

/-- Every carriage return is followed by a line feed. -/
def hasWholeBreaks : List Char → Bool
  | [] => true
  | '\r' :: '\n' :: rest => hasWholeBreaks rest
  | c :: rest => c != '\r' && hasWholeBreaks rest

def documentation (isInner : Bool) (content : List Char) : List Lexeme :=
  (if isInner then [mark '#' false, mark '!' false] else [mark '#' false]) ++
    [group .square [word "doc", mark '=' false, text (String.ofList content)]]

def readDocumentation? (source : List Char) : Option (List Lexeme × List Char) :=
  match source with
  | '/' :: '/' :: '!' :: rest => comment true (some (cutLine [] rest))
  | '/' :: '/' :: '/' :: rest => comment false (some (cutLine [] rest))
  | '/' :: '*' :: '!' :: rest => comment true (cutComment? 0 [] rest)
  | '/' :: '*' :: '*' :: rest => comment false (cutComment? 0 [] rest)
  | _ => none
where
  comment (isInner : Bool) (cut : Option Cut) : Option (List Lexeme × List Char) :=
    match cut with
    | none => none
    | some (content, rest) =>
      if hasWholeBreaks content then some (documentation isInner content, rest) else none

/-- A mark stands at the front of the text. The marks of a comment are none. -/
def startsWithMark : List Char → Bool
  | '/' :: '/' :: _ => false
  | '/' :: '*' :: _ => false
  | c :: _ => "~!@#$%^&*-=+|;:,<.>/?'".toList.contains c
  | [] => false

/-- Reads a name, which may be raw. A text that begins as a literal is none. -/
def readName? (source : List Char) : Option (Bool × String × List Char) :=
  match source with
  | 'r' :: '#' :: rest =>
    match cutName? rest with
    | none => none
    | some (letters, more) =>
      let text := String.ofList letters
      if text ∈ ["_", "super", "self", "Self", "crate"] then none else some (true, text, more)
  | _ => (cutName? source).map fun (letters, more) =>
    (false, String.ofList letters, more)

/-- A text begins as a literal does, and no name can begin there. -/
def startsAsLiteral (source : List Char) : Bool :=
  ["r\"", "r#\"", "r##", "b\"", "b'", "br\"", "br#", "c\"", "cr\"", "cr#"].any
    fun front => front.toList.isPrefixOf source

/-- Reads a lifetime after its mark. Where a literal begins like its name, the mark stands for
itself and is joined to the literal. -/
def readLifetime? (source : List Char) : Option (Lexeme × List Char) :=
  match readName? source with
  | none => none
  | some (isRaw, text, rest) =>
    if rest.head? == some '\'' || rest.head? == some '#' && !isRaw then none
    else if (readLiteral? source).isSome then some (mark '\'' true, source)
    else if startsAsLiteral source then none
    else some (lifetime (if isRaw then "r#" ++ text else text), rest)

def readLeaf? (source : List Char) : Option (Lexeme × List Char) :=
  match readLiteral? source with
  | some read => some read
  | none =>
    match source with
    | '\'' :: rest => readLifetime? rest
    | c :: rest =>
      if startsWithMark source then some (mark c (startsWithMark rest), rest)
      else if startsAsLiteral source then none
      else (readName? source).map fun (isRaw, text, more) => (name isRaw text, more)
    | [] => none

def opening? (c : Char) : Option Brackets :=
  if c = '(' then some .round
  else if c = '[' then some .square
  else if c = '\x7b' then some .curly
  else none

def closing? (c : Char) : Option Brackets :=
  if c = ')' then some .round
  else if c = ']' then some .square
  else if c = '\x7d' then some .curly
  else none

/-- Reads lexemes within the groups that are open, each with what was read before it. What was read
is given from its end, and every step reads at least one of the characters that the first argument
counts. -/
def readAll? : Nat → List (Brackets × List Lexeme) → List Lexeme → List Char →
    Option (List Lexeme)
  | _, [], read, [] => some read.reverse
  | _, _ :: _, _, [] => none
  | 0, _, _, _ :: _ => none
  | n + 1, groups, read, c :: rest =>
    match afterSpace? (c :: rest) with
    | some more => readAll? n groups read more
    | none =>
      match readDocumentation? (c :: rest) with
      | some (lexemes, more) => readAll? n groups (lexemes.reverse ++ read) more
      | none =>
        match opening? c, closing? c, groups with
        | some brackets, _, _ => readAll? n ((brackets, read) :: groups) [] rest
        | none, some brackets, (opened, before) :: outer =>
          if brackets = opened then readAll? n outer (group brackets read.reverse :: before) rest
          else none
        | none, some _, [] => none
        | none, none, _ =>
          match readLeaf? (c :: rest) with
          | some (lexeme, more) => readAll? n groups (lexeme :: read) more
          | none => none

/-- The lexemes of a text, which may begin with a byte order mark. -/
def ofText? (source : String) : Option (List Lexeme) :=
  let characters := source.toList
  let characters := if characters.head? = some '\ufeff' then characters.drop 1 else characters
  readAll? characters.length [] [] characters

end Winnow.Lexeme
