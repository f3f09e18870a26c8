import Winnow.Text.Quoted

/-!
Lexemes of source text: names, lifetimes, literals, marks, and groups between brackets. They are
written with a space between neighbours, except after a mark that is joined to the next one.
-/

namespace Winnow

inductive Brackets where
  | round
  | square
  | curly
deriving DecidableEq

inductive LiteralKind where
  | text (value : String) (suffix : String)
  | number
  | other
deriving DecidableEq

/-- A lexeme. Marks are single characters; the marks of one operator are joined. -/
inductive Lexeme where
  /-- A name or a keyword. A raw name is never a keyword. -/
  | name (isRaw : Bool) (text : String)
  | lifetime (name : String)
  | literal (kind : LiteralKind) (source : String)
  | mark (c : Char) (isJoint : Bool)
  | group (brackets : Brackets) (content : List Lexeme)
deriving Inhabited

namespace Lexeme

def word (text : String) : Lexeme := name false text

def operatorMarks : List Char → List Lexeme
  | [] => []
  | [c] => [mark c false]
  | c :: rest => mark c true :: operatorMarks rest

def operator (text : String) : List Lexeme := operatorMarks text.toList

/-- The characters between the quotation marks of a literal. A zero before an octal digit needs its
long form. -/
def escapeText : List Char → List Char
  | [] => []
  | c :: rest =>
    let isOctal := rest.head?.any fun d => '0' ≤ d && d ≤ '7'
    (if c = '\x00' && isOctal then ['\\', 'x', '0', '0'] else Text.escapeUnprintable c) ++
      escapeText rest

def text (value : String) : Lexeme :=
  literal (.text value "") (String.ofList ('"' :: escapeText value.toList ++ ['"']))

def separatesNext : Lexeme → Bool
  | mark _ isJoint => !isJoint
  | _ => true

mutual

def writeAfter (before : String) : Lexeme → String
  | name isRaw text => if isRaw then before ++ "r#" ++ text else before ++ text
  | lifetime label => before ++ "'" ++ label
  | literal _ source => before ++ source
  | mark c _ => before.push c
  | group .round content => writeAllAfter (before ++ "(") content ++ ")"
  | group .square content => writeAllAfter (before ++ "[") content ++ "]"
  | group .curly [] => before ++ "\x7b \x7d"
  | group .curly (first :: rest) => writeAllAfter (before ++ "\x7b ") (first :: rest) ++ " \x7d"

/-- A text followed by lexemes with spaces between them. -/
def writeAllAfter (before : String) : List Lexeme → String
  | [] => before
  | [lexeme] => writeAfter before lexeme
  | lexeme :: next :: rest =>
    let written := writeAfter before lexeme
    writeAllAfter (if lexeme.separatesNext then written.push ' ' else written) (next :: rest)

end

def write (lexemes : List Lexeme) : String := writeAllAfter "" lexemes

mutual

/-- How many lexemes there are, those in groups included. -/
def size : Lexeme → Nat
  | group _ content => sizeAll content + 1
  | _ => 1

def sizeAll : List Lexeme → Nat
  | [] => 0
  | lexeme :: rest => lexeme.size + sizeAll rest

end

/-- The words that are no names unless they are written raw. -/
def reservedWords : List String :=
  ["_", "abstract", "as", "async", "await", "become", "box", "break", "const", "continue", "crate",
   "do", "dyn", "else", "enum", "extern", "false", "final", "fn", "for", "if", "impl", "in", "let",
   "loop", "macro", "match", "mod", "move", "mut", "override", "priv", "pub", "ref", "return",
   "Self", "self", "static", "struct", "super", "trait", "true", "try", "type", "typeof", "unsafe",
   "unsized", "use", "virtual", "where", "while", "yield"]

def isFree (word : String) : Bool := !reservedWords.contains word

end Lexeme

end Winnow
