import Winnow.Condition.Junction

/-!
Subqueries: a condition on the items of a collection and how many of them must satisfy it. The
variable for the items is numbered by how deep subqueries nest in the condition, so no variable is
bound again inside the subquery that binds it.
-/

namespace Winnow

inductive Quantifier where
  | any
  | all
  | none
deriving DecidableEq

namespace Quantifier

def name : Quantifier → String
  | any => "any"
  | all => "all"
  | none => "none"

/-- The condition on the number of items that were kept. -/
def countTest (q : Quantifier) (collection : String) : Template :=
  let count := Template.empty.text ").@count "
  match q with
  | any => count.text "> 0"
  | all => ((count.text "== ").field collection).text ".@count"
  | none => count.text "== 0"

end Quantifier

inductive Condition where
  | clause (c : Clause)
  | junction (j : Junction)

def Condition.template : Condition → Template
  | clause c => c.template
  | junction j => j.template

structure Subquery where
  quantifier : Quantifier
  collection : String
  itemName : String
  template : Template

namespace Subquery

/-- The variable for the items of a subquery around conditions of the given height. -/
def itemNameAt (height : Nat) : String := "$a" ++ toString height

def asking (quantifier : Quantifier) (collection : KeyPath) (inner : Condition) : Subquery :=
  let inner := inner.template
  let item := itemNameAt inner.height
  let opening := (((Template.empty.text "SUBQUERY(").field collection.raw).text ", ").text item
  let whole := ((opening.text ", ").append (inner.under item)).append
    (quantifier.countTest collection.raw)
  ⟨quantifier, collection.raw, item, { whole with height := inner.height + 1 }⟩

/-- Clauses under a connective as the condition on the items; there must be one. -/
def askingAll (quantifier : Quantifier) (connective : Connective) (collection : KeyPath)
    (clauses : List Clause) : Except BuildError Subquery :=
  match Junction.ofList connective clauses with
  | .ok j => .ok (asking quantifier collection (.junction j))
  | .error _ => .error (.emptySubquery collection.expression)

/-- A subquery is itself a clause on the element that has the collection. -/
def toClause (s : Subquery) : Clause := ⟨s.collection, s.template⟩

def format (s : Subquery) : String := s.template.render

end Subquery

end Winnow
