import Winnow.Condition.BuildError
import Winnow.Condition.Template
import Winnow.Value

/-!
Aggregates: a number computed from a collection and compared with numbers. These are written into
the text of the condition, which therefore has no arguments.
-/

namespace Winnow

inductive AggregateFunction where
  | count
  | average
  | sum
  | maximum
  | minimum
deriving DecidableEq

def AggregateFunction.keyword : AggregateFunction → String
  | count => "@count"
  | average => "@avg"
  | sum => "@sum"
  | maximum => "@max"
  | minimum => "@min"

inductive AggregateTest where
  | above (bound : Quantity)
  | below (bound : Quantity)
  | equal (value : Quantity)
  | between (low high : Quantity)

namespace AggregateTest

/-- The text of a number, or the error that it has none. -/
def literal (q : Quantity) : Except BuildError String :=
  match q.literal? with
  | some text => .ok text
  | none => .error (.invalidArgument "aggregate" "value has no finite literal form")

def text : AggregateTest → Except BuildError String
  | above bound => do return "> " ++ (← literal bound)
  | below bound => do return "< " ++ (← literal bound)
  | equal value => do return "== " ++ (← literal value)
  | between low high => do
    let low ← literal low
    let high ← literal high
    return "BETWEEN \x7b " ++ low ++ ", " ++ high ++ " \x7d"

end AggregateTest

structure Aggregate where
  function : AggregateFunction
  test : AggregateTest

/-- The condition on the numbers that a field of each item of a collection has. Both paths may be
empty: the element itself is the collection, the item itself the number. -/
def Aggregate.compile (a : Aggregate) (collection field : String) : Except BuildError Template := do
  let test ← a.test.text
  let function := (Template.empty.owner collection).text a.function.keyword
  let function := if field.isEmpty then function else (function.text ".").text field
  return (function.text " ").text test

end Winnow
