import Winnow.Phrase.Bound

/-!
Types. Some forms are taken as they stand in the source, because they have no form of their own.
-/

namespace Winnow.Phrase

open Reading

/-- The words that may precede the parameters of a function type. -/
def functionWords : List String := ["fn", "unsafe", "extern"]

def seesIntrinsic : Reading Bool := do
  let next ← ahead
  return Lexeme.beginWithWord ["builtin"] next && Lexeme.beginWith "#" (next.drop 1)

def intrinsic : Reading Unit := do
  skip
  skip
  let _ ← name
  let _ ← group .round

def convention : Reading Phrase := do
  match ← optionalWord "extern" with
  | [] => return []
  | word =>
    match ← ahead with
    | .literal (.text value suffix) source :: _ =>
      skip
      return word ++ [.literal (.text value suffix) source]
    | _ => return word

def result (g : Grammar) (allowsPlus : Bool) : Reading Phrase := do
  match ← optional "->" with
  | [] => return []
  | arrow => return arrow ++ (← g.type allowsPlus).phrase

/-- A name that labels what follows comes first. -/
def beginLabel (words : List String) (lexemes : List Lexeme) : Bool :=
  (Lexeme.beginWithName lexemes || Lexeme.beginWithWord words lexemes) &&
    Lexeme.beginWith ":" (lexemes.drop 1)

/-- Reads a parameter of a function type after its attributes. The first one may stand for the
receiver, in forms that are taken as they stand in the source. -/
def typeParameter (g : Grammar) (isFirst : Bool) : Reading Phrase := do
  let start ← ahead
  let isReceiver (lexemes : List Lexeme) : Bool :=
    isFirst && Lexeme.beginWithWord ["mut"] lexemes &&
      Lexeme.beginWithWord ["self"] (lexemes.drop 1)
  let isMutable := isReceiver start
  if isMutable then skip
  let next ← ahead
  let isLabelled := beginLabel (if isFirst then ["_", "self"] else ["_"]) next &&
    !Lexeme.beginWith "::" (next.drop 1)
  let label ← if isLabelled then pure [← anyName] else pure []
  let colon ← if isLabelled then required ":" else pure []
  let isSelf := isLabelled && Lexeme.beginWithWord ["self"] next
  if !isSelf && isReceiver (← ahead) then
    skip
    skip
    readSince start
  else if isMutable && !isLabelled then
    skip
    readSince start
  else
    let found ← g.type true
    if isMutable then readSince start else return label ++ colon ++ found.phrase

/-- Reads the parameters of a function type, the last of which may stand for any number of them. -/
def typeParameters (g : Grammar) : Nat → Bool → Reading Phrase
  | 0, _ => return []
  | n + 1, isFirst => do
    if ← atEnd then return []
    else
      let described ← attributes g
      let next ← ahead
      let isLabelled := beginLabel ["_"] next && Lexeme.beginWith "..." (next.drop 2)
      if isLabelled || Lexeme.beginWith "..." next then
        let label ← if isLabelled then pure ((← anyName) :: (← required ":")) else pure []
        return described ++ label ++ (← required "...") ++ (← optional ",")
      else
        let parameter ← typeParameter g isFirst
        if ← atEnd then return described ++ parameter
        else
          let comma ← required ","
          return described ++ parameter ++ comma ++ (← typeParameters g n false)

def functionType (g : Grammar) : Reading Phrase := do
  let safety ← optionalWord "unsafe"
  let convention ← convention
  let word ← requiredWord "fn"
  let parameters ← grouped .round (typeParameters g g.limit true)
  return safety ++ convention ++ word ++ parameters ++ (← result g false)

def addedBounds (g : Grammar) : Nat → Reading Phrase
  | 0 => return []
  | n + 1 => do
    match ← optional "+" with
    | [] => return []
    | plus =>
      let next ← bound g false false
      return plus ++ next.phrase ++ (← addedBounds g n)

/-- Reads what a group in parentheses at the front of a type holds: a tuple, or a single type with
what is known of it. -/
def roundContent (g : Grammar) : Reading (Option TypePhrase × Phrase) := do
  let first ← g.type true
  match ← optional "," with
  | [] => return (some first, first.phrase)
  | comma =>
    let others ← commaListToEnd (return (← g.type true).phrase) g.limit
    return (none, first.phrase ++ comma ++ listed others)

/-- Reads a type that begins with a group in parentheses, which was read. -/
def roundType (g : Grammar) (allowsPlus : Bool) (content : List Lexeme) : Reading TypePhrase := do
  let around (inner : Phrase) : Phrase := [.group .round inner]
  if content.isEmpty then return { phrase := around [] }
  else if Lexeme.beginWithLifetime content then
    return { phrase := around (← within .round content (bounds g true false)) }
  else if Lexeme.beginWith "?" content then
    let (_, inner) ← within .round content (traitBound g false)
    let others ← addedBounds g g.limit
    return {
      phrase := around inner ++ others
      bound := if others.isEmpty then some inner else none }
  else
    let (single, inner) ← within .round content (roundContent g)
    match single.bind (·.bound) with
    | some bound =>
      if allowsPlus && (← sees "+") then
        return { phrase := around bound ++ (← addedBounds g g.limit) }
      else return { phrase := around inner }
    | none => return { phrase := around inner }

/-- Reads a type that begins with a path, after the parameters that it is about. -/
def pathType (g : Grammar) (allowsPlus : Bool) (binder : Phrase) : Reading TypePhrase := do
  let path ← qualifiedPath g false
  if path.isQualified then return { phrase := path.phrase }
  else if (← sees "!") && !(← sees "!=") && path.isPlain then
    let bang ← required "!"
    return { phrase := path.phrase ++ bang ++ [← anyGroup] }
  else
    let first := binder ++ path.phrase
    let others ← if allowsPlus then moreBounds g false false g.limit else pure []
    return {
      phrase := first ++ others.flatMap (·.phrase)
      isSimple := binder.isEmpty && others.isEmpty && path.length == 1 && !path.isRooted
      bound := if others.isEmpty then some first else none }

def markedType (g : Grammar) (allowsPlus : Bool) (start : List Lexeme) : Reading TypePhrase := do
  if ← seesWord "dyn" then
    skip
    let star ← optional "*"
    let found ← bounds g allowsPlus false
    if star.isEmpty then return { phrase := .word "dyn" :: found }
    else return { phrase := ← readSince start }
  else if ← seesGroup .square then
    let inner ← grouped .square do
      let item ← g.type true
      match ← optional ";" with
      | [] => return item.phrase
      | mark => return item.phrase ++ mark ++ (← g.expression true).phrase
    return { phrase := inner }
  else if ← sees "*" then
    let star ← required "*"
    let kind ← do
      if (← seesWord "const") || (← seesWord "mut") then pure [← anyName]
      else expectedWord ["const", "mut"]
    return { phrase := star ++ kind ++ (← g.type false).phrase }
  else if ← sees "&" then
    let mark ← required "&"
    let span ← optionalLifetime
    let kind ← optionalWord "mut"
    return { phrase := mark ++ span ++ kind ++ (← g.type false).phrase }
  else if ← sees "!" then return { phrase := ← required "!" }
  else if ← seesWord "impl" then
    skip
    return { phrase := .word "impl" :: (← bounds g allowsPlus true) }
  else if ← seesWord "_" then return { phrase := [← anyName] }
  else if ← seesLifetime then return { phrase := ← bounds g true false }
  else
    expected ["\x60for\x60", "parentheses", "\x60fn\x60", "\x60unsafe\x60", "\x60extern\x60",
      "identifier", "\x60::\x60", "\x60<\x60", "\x60dyn\x60", "square brackets", "\x60*\x60",
      "\x60&\x60", "\x60!\x60", "\x60impl\x60", "\x60_\x60", "lifetime"]

def type (g : Grammar) (allowsPlus : Bool) : Reading TypePhrase := do
  let start ← ahead
  let binder ← binder g
  if !binder.isEmpty && !(← seesName) && !(← seesAnyWord (functionWords ++ pathWords)) then
    expected ("identifier" :: (functionWords ++ pathWords).map SyntaxFault.marked)
  else
    match Lexeme.firstGroup? .round (← ahead) with
    | some content =>
      skip
      roundType g allowsPlus content
    | none =>
      if ← seesAnyWord functionWords then return { phrase := binder ++ (← functionType g) }
      else if ← seesIntrinsic then
        intrinsic
        return { phrase := ← readSince start }
      else if ← seesPathStart then pathType g allowsPlus binder
      else markedType g allowsPlus start

end Winnow.Phrase
