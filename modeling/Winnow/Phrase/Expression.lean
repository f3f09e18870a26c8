import Winnow.Phrase.Operator
import Winnow.Phrase.Pattern

/-!
Expressions: operands with operators before, between and after them. Where a block follows, an
expression does not begin with a record, because the braces would be ambiguous.
-/

namespace Winnow.Phrase

open Reading

def expressionList (g : Grammar) (brackets : Brackets) : Reading Phrase :=
  groupedList g brackets (return (← g.expression true).phrase)

def beginExpression (lexemes : List Lexeme) : Bool :=
  match lexemes with
  | [] => false
  | .name isRaw text :: _ => isRaw || text != "as"
  | .mark c _ :: _ =>
    let begins (operator : String) : Bool := Lexeme.beginWith operator lexemes
    c == '!' && !begins "!=" || c == '-' && !begins "-=" && !begins "->" ||
      c == '*' && !begins "*=" || c == '|' && !begins "|=" || c == '&' && !begins "&=" ||
      begins ".." || c == '<' && !begins "<=" && !begins "<<=" || begins "::" || c == '#'
  | _ => true

def jumpValue (g : Grammar) : Reading Phrase := do
  if beginExpression (← ahead) then return (← g.expression true).phrase else return []

/-- Reads members of a record. Two points may stand before a record that has the remaining ones. -/
def memberValues (g : Grammar) : Nat → Reading Phrase
  | 0 => return []
  | n + 1 => do
    if ← atEnd then return []
    else
      match ← optional ".." with
      | [] =>
        let described ← attributes g
        let found ← member
        let value ← do
          if (← sees ":") || !found.isNamed then
            let colon ← required ":"
            pure (colon ++ (← g.expression true).phrase)
          else pure []
        let first := described ++ found.phrase ++ value
        if ← atEnd then return first
        else
          let comma ← required ","
          return first ++ comma ++ (← memberValues g n)
      | points =>
        if ← atEnd then return points else return points ++ (← g.expression true).phrase

def pathExpression (g : Grammar) (allowsRecord : Bool) : Reading ExpressionPhrase := do
  let path ← qualifiedPath g true
  if ← seesExpansion path then
    let isCurly := Lexeme.beginWithGroup .curly ((← ahead).drop 1)
    let phrase ← expansion path.phrase
    return { phrase, shape := if isCurly then .curlyExpansion else .other }
  else if allowsRecord && (← seesGroup .curly) then
    return { phrase := path.phrase ++ (← grouped .curly (memberValues g g.limit)) }
  else return { phrase := path.phrase }

def closureParameter (g : Grammar) : Reading Phrase := do
  let described ← attributes g
  let found ← g.pattern
  match ← optional ":" with
  | [] =>
    if found.shape = .verbatim then return found.phrase else return described ++ found.phrase
  | colon => return described ++ found.phrase ++ colon ++ (← g.type true).phrase

/-- Reads a function without a name. If it states the type of its result, its body is a block. -/
def closure (g : Grammar) (allowsRecord : Bool) : Reading Phrase := do
  let binder ← binder g
  let constness ← optionalWord "const"
  let movability ← optionalWord "static"
  let asynchrony ← optionalWord "async"
  let capture ← optionalWord "move"
  let opening ← required "|"
  let parameters ← commaListUntil (sees "|") (closureParameter g) g.limit
  let closing ← required "|"
  let head := binder ++ constness ++ movability ++ asynchrony ++ capture ++ opening ++
    listed parameters ++ closing
  match ← result g true with
  | [] => return head ++ (← g.expression allowsRecord).phrase
  | output => return head ++ output ++ (← block g)

def beginClosure (lexemes : List Lexeme) : Bool :=
  let next := lexemes.drop 1
  Lexeme.beginWith "|" lexemes || Lexeme.beginWithWord ["move", "static"] lexemes ||
    Lexeme.beginWithWord ["for"] lexemes && Generics.beginParameters next ||
    Lexeme.beginWithWord ["const"] lexemes && !Lexeme.beginWithGroup .curly next ||
    Lexeme.beginWithWord ["async"] lexemes &&
      (Lexeme.beginWith "|" next || Lexeme.beginWithWord ["move"] next)

def choice (g : Grammar) : Nat → Reading Phrase
  | 0 => return []
  | n + 1 => do
    let word ← requiredWord "if"
    let condition ← g.expression false
    let first ← block g
    match ← optionalWord "else" with
    | [] => return word ++ condition.phrase ++ first
    | otherwise =>
      let head := word ++ condition.phrase ++ first ++ otherwise
      if ← seesWord "if" then return head ++ (← choice g n)
      else if ← seesGroup .curly then return head ++ (← block g)
      else expected [SyntaxFault.marked "if", "curly braces"]

def loop (g : Grammar) : Reading Phrase := do
  if ← seesWord "while" then
    skip
    let condition ← g.expression false
    return .word "while" :: condition.phrase ++ (← describedBlock g)
  else if ← seesWord "for" then
    skip
    let item ← alternatives g
    let word ← requiredWord "in"
    let source ← g.expression false
    return .word "for" :: item.phrase ++ word ++ source.phrase ++ (← describedBlock g)
  else
    let word ← requiredWord "loop"
    return word ++ (← describedBlock g)

def labelled (g : Grammar) : Reading Phrase := do
  let label ← lifetime
  let colon ← required ":"
  if ← seesAnyWord ["while", "for", "loop"] then return label :: colon ++ (← loop g)
  else if ← seesGroup .curly then return label :: colon ++ (← describedBlock g)
  else expected ["loop or block expression"]

def escape (g : Grammar) (allowsRecord : Bool) : Reading Phrase := do
  skip
  let next ← ahead
  if Lexeme.beginWithLifetime next && Lexeme.beginWith ":" (next.drop 1) then
    let _ ← g.expression true
    throw .bareLabel
  else
    let label ← optionalLifetime
    if !allowsRecord && (← seesGroup .curly) then return .word "break" :: label
    else return .word "break" :: label ++ (← jumpValue g)

/-- Reads a condition that takes a value apart. -/
def binding (g : Grammar) (allowsRecord : Bool) : Reading Phrase := do
  let word ← requiredWord "let"
  let found ← alternatives g
  let mark ← required "="
  let value ← g.operation allowsRecord .comparison (← g.operand allowsRecord)
  return word ++ found.phrase ++ mark ++ value.phrase

/-- Reads a list, or an item with the number of times that it is repeated. -/
def array (g : Grammar) : Reading Phrase :=
  grouped .square do
    if ← atEnd then return []
    else
      let first ← g.expression true
      if (← atEnd) || (← sees ",") then
        let comma ← optional ","
        let others ← commaListToEnd (return (← g.expression true).phrase) g.limit
        return first.phrase ++ comma ++ listed others
      else if ← sees ";" then
        let mark ← required ";"
        return first.phrase ++ mark ++ (← g.expression true).phrase
      else expected [SyntaxFault.marked ",", SyntaxFault.marked ";"]

/-- Reads the cases of a match. A case whose body does not end with a block is followed by a
comma. -/
def cases (g : Grammar) : Nat → Reading Phrase
  | 0 => return []
  | n + 1 => do
    if ← atEnd then return []
    else
      let described ← attributes g
      let found ← alternatives g
      let guard ← do
        match ← optionalWord "if" with
        | [] => pure []
        | word => pure (word ++ (← g.expression true).phrase)
      let arrow ← required "=>"
      let value ← g.clause []
      let head := described ++ found.phrase ++ guard ++ arrow ++ value.phrase
      let comma ← do
        if value.shape ≠ .block && !(← atEnd) then required "," else optional ","
      return head ++ comma ++ (← cases g n)

def accesses (g : Grammar) : Nat → ExpressionPhrase → Reading ExpressionPhrase
  | 0, operand => return operand
  | n + 1, operand => do
    let next ← ahead
    if Lexeme.beginWithGroup .round next then
      accesses g n { phrase := operand.phrase ++ (← expressionList g .round) }
    else if Lexeme.beginWithGroup .square next then
      let index ← grouped .square (return (← g.expression true).phrase)
      accesses g n { phrase := operand.phrase ++ index }
    else if operand.shape = .range then return operand
    else if Lexeme.beginWith "." next && !Lexeme.beginWith ".." next then
      skip
      accesses g n { phrase := operand.phrase ++ (← accessed) }
    else if Lexeme.beginWith "?" next then
      accesses g n { phrase := operand.phrase ++ (← required "?") }
    else return operand
where
  accessed : Reading Phrase := do
    let point := Lexeme.operator "."
    match ← ahead with
    | .literal .number source :: _ =>
      if (WholeNumber.ofText? source.toList).isSome then return point ++ (← memberIndex)
      else
        skip
        match WholeNumber.indices source.toList with
        | .error fault => throw fault
        | .ok indices =>
          let read := indices.flatMap fun index => point ++ [index]
          if source.endsWith "." then return read ++ point ++ (← memberAccess) else return read
    | _ => return point ++ (← memberAccess)
  memberAccess : Reading Phrase := do
    match ← optionalWord "await" with
    | [] =>
      let found ← member
      if found.isNamed && (← sees "::") then
        let separator ← required "::"
        let given ← angled g (argument g)
        return found.phrase ++ separator ++ given.phrase ++ (← expressionList g .round)
      else return found.phrase
    | word => return word

/-- An expression can begin that is a block, perhaps after a word or a label. -/
def beginBlock (lexemes : List Lexeme) : Bool :=
  Lexeme.beginWithGroup .curly lexemes || Lexeme.beginWithLifetime lexemes ||
    Lexeme.beginWithWord ["if", "while", "loop", "match", "unsafe"] lexemes ||
    Lexeme.beginWithWord ["for"] lexemes && !Generics.beginParameters (lexemes.drop 1) ||
    Lexeme.beginWithWord ["try", "const"] lexemes &&
      Lexeme.beginWithGroup .curly (lexemes.drop 1)

def blockExpression (g : Grammar) : Reading Phrase := do
  if ← seesLifetime then labelled g
  else if ← seesWord "if" then choice g g.limit
  else if ← seesAnyWord ["while", "for", "loop"] then loop g
  else if ← seesWord "match" then
    skip
    let subject ← g.expression false
    let inner ← grouped .curly (return (← innerAttributes g) ++ (← cases g g.limit))
    return .word "match" :: subject.phrase ++ inner
  else if ← seesWord "try" then
    skip
    return .word "try" :: (← block g)
  else if ← seesAnyWord ["unsafe", "const"] then
    let word ← anyName
    return word :: (← describedBlock g)
  else describedBlock g

/-- Reads an expression that a word of its own begins, or none if no such word comes next. -/
def wordExpression? (g : Grammar) (allowsRecord : Bool) : Reading (Option ExpressionPhrase) := do
  let start ← ahead
  if ← seesWord "break" then return some { phrase := ← escape g allowsRecord }
  else if ← seesWord "continue" then
    skip
    return some { phrase := .word "continue" :: (← optionalLifetime) }
  else if ← seesAnyWord ["return", "yield"] then
    let word ← anyName
    return some { phrase := word :: (← jumpValue g) }
  else if ← seesWord "become" then
    skip
    let _ ← g.expression true
    return some { phrase := ← readSince start, shape := .verbatim }
  else if ← seesWord "let" then return some { phrase := ← binding g allowsRecord }
  else if ← seesWord "_" then return some { phrase := [← anyName] }
  else return none

def beginAsynchronous (lexemes : List Lexeme) : Bool :=
  let next := lexemes.drop 1
  Lexeme.beginWithWord ["async"] lexemes &&
    (Lexeme.beginWithGroup .curly next ||
      Lexeme.beginWithWord ["move"] next && Lexeme.beginWithGroup .curly (next.drop 1))

/-- The word of an attempt comes first in a path. -/
def beginAttempt (lexemes : List Lexeme) : Bool :=
  Lexeme.beginWithWord ["try"] lexemes &&
    (Lexeme.beginWith "!" (lexemes.drop 1) || Lexeme.beginWith "::" (lexemes.drop 1))

def atom (g : Grammar) (allowsRecord : Bool) : Reading ExpressionPhrase := do
  let start ← ahead
  if Lexeme.beginWithLiteral start then return { phrase := ← literal }
  else if beginAsynchronous start then
    skip
    let capture ← optionalWord "move"
    return { phrase := .word "async" :: capture ++ (← block g) }
  else if beginClosure start then return { phrase := ← closure g allowsRecord }
  else if beginBlock start then return { phrase := ← blockExpression g, shape := .block }
  else if ← seesIntrinsic then
    intrinsic
    return { phrase := ← readSince start, shape := .verbatim }
  else if (← seesPathStart) || beginAttempt start then pathExpression g allowsRecord
  else if Lexeme.beginWithGroup .round start then return { phrase := ← expressionList g .round }
  else if Lexeme.beginWithGroup .square start then return { phrase := ← array g }
  else if Lexeme.beginWith ".." start then range g allowsRecord []
  else
    match ← wordExpression? g allowsRecord with
    | some found => return found
    | none => expected ["an expression"]

def operand (g : Grammar) (allowsRecord : Bool) : Reading ExpressionPhrase := do
  let start ← ahead
  let described ← attributes g
  if ← sees "&" then
    let mark ← required "&"
    let next ← ahead
    let isRaw := Lexeme.beginWithWord ["raw"] next &&
      Lexeme.beginWithWord ["mut", "const"] (next.drop 1)
    let access ← if isRaw then pure [← anyName, ← anyName] else optionalWord "mut"
    return { phrase := described ++ mark ++ access ++ (← g.operand allowsRecord).phrase }
  else if (← sees "*") || (← sees "!") || (← sees "-") then
    let mark ← do
      match ← optional "*" with
      | [] => if ← sees "!" then required "!" else required "-"
      | star => pure star
    return { phrase := described ++ mark ++ (← g.operand allowsRecord).phrase }
  else
    let found ← accesses g g.limit (← atom g allowsRecord)
    if found.shape = .verbatim then return { found with phrase := ← readSince start }
    else if found.shape = .range && !described.isEmpty then throw .rangeAttributes
    else return { found with phrase := described ++ found.phrase }

def expression (g : Grammar) (allowsRecord : Bool) : Reading ExpressionPhrase := do
  g.operation allowsRecord .jump (← g.operand allowsRecord)

/-- Reads an expression that ends where a block at its front does, after its attributes. Attributes
of what is taken as it stands in the source are lost. -/
def clause (g : Grammar) (described : Phrase) : Reading ExpressionPhrase := do
  let described := described ++ (← attributes g)
  if beginBlock (← ahead) then
    let found ← blockExpression g
    let next ← ahead
    let isAccessed := Lexeme.beginWith "." next && !Lexeme.beginWith ".." next ||
      Lexeme.beginWith "?" next
    let first : ExpressionPhrase := { phrase := described ++ found, shape := .block }
    if isAccessed then g.operation true .jump (← accesses g g.limit first) else return first
  else
    let found ← g.operand true
    let first :=
      if found.shape = .verbatim then found else { found with phrase := described ++ found.phrase }
    g.operation true .jump first

end Winnow.Phrase
