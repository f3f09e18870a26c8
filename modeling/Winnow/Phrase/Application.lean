import Winnow.Phrase.Attribute

/-!
Paths whose names may have arguments in angle brackets. In a type the arguments of a name follow it
directly, in an expression they follow a separator.
-/

namespace Winnow.Phrase

open Reading

/-- A constant can begin that stands as an argument. -/
def seesConstant : Reading Bool := return (← seesLiteral) || (← seesGroup .curly)

def constant (g : Grammar) : Reading Phrase := do
  if ← seesLiteral then literal else describedBlock g

def argument (g : Grammar) : Reading (Bool × Phrase) := do
  if (← seesLifetime) && !Lexeme.beginWith "+" ((← ahead).drop 1) then return (true, [← lifetime])
  else if ← seesConstant then return (false, ← constant g)
  else
    let found ← g.type true
    if !found.isSimple then return (false, found.phrase)
    else if ← sees "=" then
      let mark ← required "="
      if ← seesConstant then return (false, found.phrase ++ mark ++ (← constant g))
      else return (false, found.phrase ++ mark ++ (← g.type true).phrase)
    else if ← sees ":" then
      let mark ← required ":"
      let ends : Reading Bool := return (← sees ",") || (← sees ">")
      let bounds ← plusList ends (return (← g.bound false true).phrase) g.limit
      return (false, found.phrase ++ mark ++ bounds)
    else return (false, found.phrase)

/-- Items in angle brackets: lifetimes, which are written first, and others. -/
structure AngledPhrase where
  phrase : Phrase
  isEmpty : Bool

def angled (g : Grammar) (item : Reading (Bool × Phrase)) : Reading AngledPhrase := do
  let opening ← required "<"
  let (items, endsWithComma) ← commaListUntil (sees ">") item g.limit
  let closing ← required ">"
  return ⟨opening ++ lifetimesFirst items endsWithComma ++ closing, items.isEmpty⟩

def pathName (g : Grammar) (isExpression : Bool) (before : PathPhrase) : Reading PathPhrase := do
  if ← seesAnyWord ["super", "self", "crate", "try"] then
    let stem := before.phrase ++ [← anyName]
    return { before with phrase := stem, stem, length := before.length + 1, isApplied := false }
  else
    let stem := before.phrase ++ [← nameOr ["Self"]]
    let next ← ahead
    let isDirect := !isExpression && Lexeme.beginWith "<" next && !Lexeme.beginWith "<=" next &&
      !Lexeme.beginWith "<<=" next
    let isSeparated := (Lexeme.after? "::" next).any (Lexeme.beginWith "<" ·)
    if isDirect || isSeparated then
      let separator ← optional "::"
      let given ← angled g (argument g)
      return {
        before with
        phrase := stem ++ separator ++ given.phrase
        stem
        length := before.length + 1
        isPlain := false
        isApplied := !given.isEmpty }
    else
      return { before with phrase := stem, stem, length := before.length + 1, isApplied := false }

/-- A separator comes next that belongs to the path. If arguments in parentheses follow it, it does
so only in a path that begins with a type in angle brackets. -/
def seesMoreNames (isQualified : Bool) : Reading Bool :=
  return (Lexeme.after? "::" (← ahead)).any fun rest =>
    isQualified || !Lexeme.beginWithGroup .round rest

def morePathNames (g : Grammar) (isExpression : Bool) : Nat → PathPhrase → Reading PathPhrase
  | 0, path => return path
  | n + 1, path => do
    if ← seesMoreNames path.isQualified then
      let separator ← required "::"
      let longer ← pathName g isExpression { path with phrase := path.phrase ++ separator }
      morePathNames g isExpression n longer
    else return path

def path (g : Grammar) (isExpression : Bool) : Reading PathPhrase := do
  let root ← optional "::"
  let first ← pathName g isExpression { phrase := root, isRooted := !root.isEmpty }
  morePathNames g isExpression g.limit first

def qualifiedPath (g : Grammar) (isExpression : Bool) : Reading PathPhrase := do
  match ← optional "<" with
  | [] => path g isExpression
  | opening =>
    let self ← g.type true
    let trait ← do
      match ← optionalWord "as" with
      | [] => pure []
      | word => pure (word ++ (← path g false).phrase)
    let closing ← required ">"
    let separator ← required "::"
    let start : PathPhrase :=
      { phrase := opening ++ self.phrase ++ trait ++ closing ++ separator, isQualified := true }
    let first ← pathName g isExpression start
    morePathNames g isExpression g.limit first

end Winnow.Phrase
