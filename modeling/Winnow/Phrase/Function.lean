import Winnow.Phrase.Statement

/-!
Functions with a name: their heads and their bodies.
-/

namespace Winnow.Phrase

open Reading

/-- What is left after the words and the convention that may precede a function, so that the word
for it comes next. -/
def afterQualifiers (allowsSafe : Bool) (lexemes : List Lexeme) : List Lexeme :=
  let past (words : List String) (rest : List Lexeme) : List Lexeme :=
    if Lexeme.beginWithWord words rest then rest.drop 1 else rest
  let rest := past ["async"] (past ["const"] lexemes)
  let rest := past (if allowsSafe then ["unsafe", "safe"] else ["unsafe"]) rest
  if Lexeme.beginWithWord ["extern"] rest then
    match rest.drop 1 with
    | .literal (.text _ _) _ :: more => more
    | more => more
  else rest

def beginFunction (allowsSafe : Bool) (lexemes : List Lexeme) : Bool :=
  Lexeme.beginWithWord ["fn"] (afterQualifiers allowsSafe lexemes)

def receiverParameter (g : Grammar) : Reading Phrase := do
  let reference ← optional "&"
  let span ← if reference.isEmpty then pure [] else optionalLifetime
  let mutability ← optionalWord "mut"
  let self ← requiredWord "self"
  let type ← do
    if reference.isEmpty && (← sees ":") then
      let colon ← required ":"
      pure (colon ++ (← g.type true).phrase)
    else pure []
  return reference ++ span ++ mutability ++ self ++ type

structure FunctionParameter where
  phrase : Phrase
  isReceiver : Bool := false
  isVariadic : Bool := false

/-- Reads a parameter of a function after its attributes. A type alone may begin with a name that
has arguments; then a blank stands for its name. -/
def functionParameter (g : Grammar) : Reading FunctionParameter := do
  if ← sees "..." then return { phrase := ← required "...", isVariadic := true }
  else
    match ← attempt? (receiverParameter g) with
    | some phrase => return { phrase, isReceiver := true }
    | none =>
      let next ← ahead
      if Lexeme.beginWithName next && Lexeme.beginWith "<" (next.drop 1) then
        let found ← g.type true
        return { phrase := .word "_" :: Lexeme.operator ":" ++ found.phrase }
      else
        let found ← g.pattern
        let colon ← required ":"
        match ← optional "..." with
        | [] => return { phrase := found.phrase ++ colon ++ (← g.type true).phrase }
        | points => return { phrase := found.phrase ++ colon ++ points, isVariadic := true }

/-- Reads the parameters of a function. Only the first can be its receiver, and only the last can
stand for any number of them. -/
def functionParameters (g : Grammar) : Nat → Bool → Bool → Reading Phrase
  | 0, _, _ => return []
  | n + 1, isFirst, hasReceiver => do
    if ← atEnd then return []
    else
      let described ← attributes g
      let found ← functionParameter g
      if found.isReceiver && hasReceiver then throw .secondReceiver
      else if found.isReceiver && !isFirst then throw .lateReceiver
      else
        let first := described ++ found.phrase
        if ← atEnd then return first
        else
          let comma ← required ","
          if found.isVariadic then return first ++ comma
          else
            let others ← functionParameters g n false (hasReceiver || found.isReceiver)
            return first ++ comma ++ others

structure FunctionHead where
  phrase : Phrase
  /-- It is declared safe among what is declared elsewhere. -/
  isSafe : Bool

def functionHead (g : Grammar) (allowsSafe : Bool) : Reading FunctionHead := do
  let constness ← optionalWord "const"
  let asynchrony ← optionalWord "async"
  let safety ← optionalWord "unsafe"
  let safe ← if allowsSafe && safety.isEmpty then optionalWord "safe" else pure []
  let convention ← convention
  let word ← requiredWord "fn"
  let found ← name
  let generics ← Generics.readParameters g
  let parameters ← grouped .round (functionParameters g g.limit true false)
  let output ← result g true
  let generics ← generics.readConstraints g
  return {
    phrase := constness ++ asynchrony ++ safety ++ safe ++ convention ++ word ++ found ::
      generics.declared ++ parameters ++ output ++ generics.conditions
    isSafe := !safe.isEmpty }

end Winnow.Phrase
