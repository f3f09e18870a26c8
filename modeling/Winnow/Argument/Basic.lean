import Winnow.Json.Printer

/-!
Arguments: what a placeholder of a query stands for. A collection is one argument, not several.
-/

namespace Winnow

/-- A value that is bound to a placeholder. -/
inductive Argument where
  | null
  | bool (b : Bool)
  | integer (n : Int64)
  | float (x : Double)
  | text (s : String)
  | list (items : List Argument)

namespace Argument

mutual

/-- Equality of arguments. Fractions are compared as numbers, so the zeros are equal and
not-a-number differs from itself; whole numbers and fractions never are equal. -/
def same : Argument → Argument → Bool
  | null, null => true
  | bool a, bool b => a == b
  | integer m, integer n => m == n
  | float x, float y => x.same y
  | text s, text t => s == t
  | list xs, list ys => sameItems xs ys
  | _, _ => false

def sameItems : List Argument → List Argument → Bool
  | [], [] => true
  | x :: xs, y :: ys => x.same y && sameItems xs ys
  | _, _ => false

end

mutual

/-- The argument as a reader of the query writes it: texts in quotation marks, lists in braces. -/
def literal : Argument → String
  | null => "nil"
  | bool true => "true"
  | bool false => "false"
  | integer n => toString n.toInt
  | float x => x.write .plain
  | text s => Text.quote Text.escapeMark s
  | list items => "\x7b" ++ literalItems items ++ "\x7d"

def literalItems : List Argument → String
  | [] => ""
  | [item] => item.literal
  | item :: rest => item.literal ++ ", " ++ literalItems rest

end

mutual

def inspect : Argument → String
  | null => "Null"
  | bool true => "Bool(true)"
  | bool false => "Bool(false)"
  | integer n => "Int(" ++ toString n.toInt ++ ")"
  | float x => "Float(" ++ x.write .general ++ ")"
  | text s => "String(" ++ Text.inspect s ++ ")"
  | list items => "List([" ++ inspectItems items ++ "])"

def inspectItems : List Argument → String
  | [] => ""
  | [item] => item.inspect
  | item :: rest => item.inspect ++ ", " ++ inspectItems rest

end

def inspectAll (arguments : List Argument) : String := "[" ++ inspectItems arguments ++ "]"

end Argument

end Winnow
