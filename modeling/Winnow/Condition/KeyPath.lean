import Winnow.Text.Blank
import Winnow.Text.Quoted

/-!
Key paths: dotted names that lead from an element to one of its values. The empty path leads to the
element itself.
-/

namespace Winnow

def selfExpression : String := "SELF"

/-- A path from an element to a value. -/
structure KeyPath where
  raw : String
deriving DecidableEq

namespace KeyPath

def element : KeyPath := ⟨""⟩

/-- The path that a text names, blanks around it apart. -/
def ofText (text : String) : KeyPath := ⟨Text.trim text⟩

def isElement (p : KeyPath) : Bool := p.raw.isEmpty

def expression (p : KeyPath) : String := if p.isElement then selfExpression else p.raw

/-- First one path and then another from where it ends. -/
def followedBy (p q : KeyPath) : KeyPath :=
  if p.isElement then q else if q.isElement then p else ⟨p.raw ++ "." ++ q.raw⟩

def inspect (p : KeyPath) : String := "FieldPath(" ++ Text.inspect p.expression ++ ")"

end KeyPath

end Winnow
