import Winnow.Phrase.Generics

/-!
Bounds: lifetimes, traits, and what an opaque type captures.
-/

namespace Winnow.Phrase

open Reading

def capture (g : Grammar) : Reading Phrase := do
  let word ← requiredWord "use"
  let captured : Reading (Bool × Phrase) := do
    if ← seesLifetime then return (true, [← lifetime])
    else if (← seesName) || (← seesWord "Self") then return (false, [← anyName])
    else expected ["lifetime", "identifier", SyntaxFault.marked ">"]
  return word ++ (← angled g captured).phrase

def constantMark (allowsConstant : Bool) : Reading Phrase := do
  if ← seesGroup .square then
    let mark ← grouped .square (requiredWord "const")
    if allowsConstant then return mark else throw (.misplacedConstant "[const]")
  else
    match ← optionalWord "const" with
    | [] => return []
    | mark => if allowsConstant then return mark else throw (.misplacedConstant "const")

/-- Reads the arguments in parentheses of a trait, and its result. -/
def callArguments (g : Grammar) : Reading Phrase := do
  let given ← groupedList g .round (return (← g.type true).phrase)
  match ← optional "->" with
  | [] => return given
  | arrow => return given ++ arrow ++ (← g.type false).phrase

/-- Reads a trait with what modifies it, and whether it is constant. -/
def traitBound (g : Grammar) (allowsConstant : Bool) : Reading (Bool × Phrase) := do
  let binder ← binder g
  let mark ← constantMark allowsConstant
  let modifier ← optional "?"
  let late ← if binder.isEmpty && !modifier.isEmpty then Phrase.binder g else pure []
  let found ← path g false
  let next ← ahead
  let isCalled := Lexeme.beginWithGroup .round next ||
    (Lexeme.after? "::" next).any (Lexeme.beginWithGroup .round ·)
  let applied ← do
    if !found.isApplied && isCalled then
      let _ ← optional "::"
      pure (found.stem ++ (← callArguments g))
    else pure found.phrase
  if !modifier.isEmpty && (!binder.isEmpty || !late.isEmpty) then throw .relaxedBinder
  else return (!mark.isEmpty, binder ++ mark ++ modifier ++ applied)

/-- Reads a bound. One that is constant is taken as it stands in the source. -/
def bound (g : Grammar) (allowsCapture allowsConstant : Bool) : Reading BoundPhrase := do
  if ← seesLifetime then return ⟨[← lifetime], false⟩
  else if ← seesWord "use" then
    let phrase ← capture g
    if allowsCapture then return ⟨phrase, false⟩ else throw .misplacedCapture
  else
    let start ← ahead
    match Lexeme.firstGroup? .round start with
    | some content =>
      skip
      let (isConstant, phrase) ← within .round content (traitBound g allowsConstant)
      if isConstant then return ⟨← readSince start, true⟩ else return ⟨[.group .round phrase], true⟩
    | none =>
      let (isConstant, phrase) ← traitBound g allowsConstant
      if isConstant then return ⟨← readSince start, true⟩ else return ⟨phrase, true⟩

def seesBoundStart (allowsConstant : Bool) : Reading Bool := do
  return (← seesAnyName) || (← sees "::") || (← sees "?") || (← seesLifetime) ||
    (← seesGroup .round) || allowsConstant && (← seesGroup .square)

/-- Reads further bounds, each after a plus sign. There may be one at the end. -/
def moreBounds (g : Grammar) (allowsCapture allowsConstant : Bool) :
    Nat → Reading (List BoundPhrase)
  | 0 => return []
  | n + 1 => do
    match ← optional "+" with
    | [] => return []
    | plus =>
      if ← seesBoundStart allowsConstant then
        let next ← bound g allowsCapture allowsConstant
        let others ← moreBounds g allowsCapture allowsConstant n
        return { next with phrase := plus ++ next.phrase } :: others
      else return [⟨plus, false⟩]

/-- Reads the bounds of an object type or an opaque type, one of which must name a trait. -/
def bounds (g : Grammar) (allowsPlus isOpaque : Bool) : Reading Phrase := do
  let first ← bound g isOpaque isOpaque
  let others ← if allowsPlus then moreBounds g isOpaque isOpaque g.limit else pure []
  let all := first :: others
  if all.any (·.isTrait) then return all.flatMap (·.phrase)
  else throw (if isOpaque then .noOpaqueTrait else .noObjectTrait)

end Winnow.Phrase
