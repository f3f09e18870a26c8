import Winnow.Phrase.Expression

/-!
Statements: what a block holds. Only a statement that ends with braces can be followed by another
one without a semicolon.
-/

namespace Winnow.Phrase

open Reading

/-- A statement, and whether another one can only follow it after a semicolon. -/
structure StatementPhrase where
  phrase : Phrase
  isOpen : Bool := false

def endsWithBraces (phrase : Phrase) : Bool :=
  match phrase.getLast? with
  | some (.group .curly _) => true
  | _ => false

/-- Reads what is done where a value does not fit its pattern. A value that ends with braces cannot
be followed by that. -/
def otherwise (g : Grammar) (value : Phrase) : Reading Phrase := do
  if endsWithBraces value then return []
  else
    match ← optionalWord "else" with
    | [] => return []
    | word => return word ++ (← block g)

def declaredValue (g : Grammar) : Reading Phrase := do
  let word ← requiredWord "let"
  let found ← g.pattern
  let type ← do
    match ← optional ":" with
    | [] => pure []
    | colon => pure (colon ++ (← g.type true).phrase)
  let value ← do
    match ← optional "=" with
    | [] => pure []
    | mark =>
      let value ← g.expression true
      pure (mark ++ value.phrase ++ (← otherwise g value.phrase))
  return word ++ found.phrase ++ type ++ value ++ (← required ";")

/-- The words that begin an item without a doubt. -/
def itemWords : List String :=
  ["pub", "extern", "use", "fn", "mod", "type", "struct", "enum", "trait", "impl", "macro"]

/-- An item can begin, where an expression can begin too. -/
def beginItem (lexemes : List Lexeme) : Bool :=
  let next := lexemes.drop 1
  let begins (word : String) : Bool := Lexeme.beginWithWord [word] lexemes
  let isFunction (rest : List Lexeme) : Bool :=
    Lexeme.beginWithWord ["unsafe", "extern", "fn"] rest
  Lexeme.beginWithWord itemWords lexemes ||
    begins "crate" && !Lexeme.beginWith "::" next ||
    begins "static" && (Lexeme.beginWithWord ["mut"] next || Lexeme.beginWithName next) ||
    begins "const" &&
      !(Lexeme.beginWithGroup .curly next || Lexeme.beginWithWord ["static", "move"] next ||
        Lexeme.beginWithWord ["async"] next && !isFunction (next.drop 1) ||
        Lexeme.beginWith "|" next) ||
    begins "unsafe" && !Lexeme.beginWithGroup .curly next ||
    begins "async" && isFunction next ||
    begins "union" && Lexeme.beginWithName next ||
    begins "auto" && Lexeme.beginWithWord ["trait"] next ||
    begins "default" && Lexeme.beginWithWord ["unsafe", "impl"] next

/-- What an expansion at the front of a statement is. -/
inductive ExpansionPlace where
  | item
  /-- Its braces end the statement. -/
  | statement
  | expression

def ExpansionPlace.ofLexemes (lexemes : List Lexeme) : ExpansionPlace :=
  match Lexeme.after? "!" lexemes with
  | none => expression
  | some next =>
    let rest := next.drop 1
    let isAccessed := Lexeme.beginWith "." rest && !Lexeme.beginWith ".." rest ||
      Lexeme.beginWith "?" rest
    if Lexeme.beginWithName next || Lexeme.beginWithWord ["try"] next then item
    else if Lexeme.beginWithGroup .curly next && !isAccessed then statement
    else expression

def expressionStatement (g : Grammar) (described : Phrase) : Reading StatementPhrase := do
  let found ← g.clause described
  let mark ← optional ";"
  let endsItself := found.shape = .block || found.shape = .curlyExpansion
  return ⟨found.phrase ++ mark, mark.isEmpty && !endsItself⟩

def statement (g : Grammar) : Reading StatementPhrase := do
  let start ← ahead
  let described ← attributes g
  let place ← do
    match ← foresee? (plainPath g.limit) with
    | some (_, rest) => pure (ExpansionPlace.ofLexemes rest)
    | none => pure .expression
  match place with
  | .statement =>
    let path ← plainPath g.limit
    let found ← expansion path
    return { phrase := described ++ found ++ (← optional ";") }
  | .item => return { phrase := ← g.item start described }
  | .expression =>
    if ← seesWord "let" then return { phrase := described ++ (← declaredValue g) }
    else if beginItem (← ahead) then return { phrase := ← g.item start described }
    else expressionStatement g described

/-- Reads statements to the end of a block. A semicolon on its own is one. -/
def statements (g : Grammar) : Reading Phrase :=
  more g.limit
where
  more : Nat → Reading Phrase
    | 0 => return []
    | n + 1 => do
      match ← optional ";" with
      | [] =>
        if ← atEnd then return []
        else
          let first ← statement g
          if ← atEnd then return first.phrase
          else if first.isOpen then throw .unfinishedStatement
          else return first.phrase ++ (← more n)
      | mark => return mark ++ (← more n)

end Winnow.Phrase
