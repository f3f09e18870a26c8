import Winnow.Condition.Modifier
import Winnow.Condition.Template
import Winnow.Value

/-!
Comparisons of a field with values. Values are never written into the text of a condition: each
becomes a placeholder and an argument.
-/

namespace Winnow

inductive MatchTest where
  /-- Some item of a collection equals the value. -/
  | anyEqual
  | equal
  | notEqual
  | contains
  | beginsWith
  | endsWith
deriving DecidableEq

def MatchTest.keyword : MatchTest → String
  | anyEqual => "="
  | equal => "="
  | notEqual => "!="
  | contains => "CONTAINS"
  | beginsWith => "BEGINSWITH"
  | endsWith => "ENDSWITH"

/-- The side of a value that a field lies on. -/
inductive Side where
  | above
  | below
deriving DecidableEq

def Side.keyword : Side → String
  | above => ">"
  | below => "<"

inductive Comparison where
  | matching (test : MatchTest) (value : Value) (modifiers : Modifiers)
  | member (values : List Value) (modifiers : Modifiers)
  /-- The field lies between two values or equals one of them. -/
  | between (low high : Value)
  | ordered (side : Side) (value : Value)

namespace Comparison

def keyword : Comparison → String
  | matching test _ _ => test.keyword
  | member _ _ => "IN"
  | between _ _ => "BETWEEN"
  | ordered side _ => side.keyword

def modifiers? : Comparison → Option Modifiers
  | matching _ _ modifiers => some modifiers
  | member _ modifiers => some modifiers
  | between _ _ => none
  | ordered _ _ => none

def suffix (c : Comparison) : String := (c.modifiers?.map Modifiers.encode).getD ""

def lead : Comparison → String
  | matching .anyEqual _ _ => "ANY "
  | _ => ""

def bindOperands (t : Template) : Comparison → Template
  | matching _ value _ => t.bind value.bind
  | member values _ => t.bind (.list (Value.bindAll values))
  | between low high => (((t.text "\x7b ").bind low.bind).text ", ").bind high.bind |>.text " \x7d"
  | ordered _ value => t.bind value.bind

def compile (c : Comparison) (path : String) : Template :=
  let left := (Template.empty.text c.lead).field path
  bindOperands ((((left.text " ").text c.keyword).text c.suffix).text " ") c

end Comparison

end Winnow
