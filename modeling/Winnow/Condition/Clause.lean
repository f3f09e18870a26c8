import Winnow.Condition.Aggregate
import Winnow.Condition.Comparison

/-!
Clauses: single conditions on an element, compiled once when they are built.
-/

namespace Winnow

/-- A compiled condition and the field it was built on. -/
structure Clause where
  expression : String
  template : Template

namespace Clause

def compare (path : KeyPath) (comparison : Comparison) : Clause :=
  ⟨path.raw, comparison.compile path.raw⟩

/-- The clause for a field that is named by a text. Blanks around the name do not count, and it must
not be blank. -/
def ofExpression (expression : String) (comparison : Comparison) : Except BuildError Clause :=
  let path := KeyPath.ofText expression
  if path.isElement then .error .blankExpression else .ok (compare path comparison)

def aggregate (collection field : KeyPath) (a : Aggregate) : Except BuildError Clause :=
  match a.compile collection.raw field.raw with
  | .ok template => .ok ⟨collection.raw, template⟩
  | .error e => .error (e.withExpression collection.expression)

def format (c : Clause) : String := c.template.render

end Clause

end Winnow
