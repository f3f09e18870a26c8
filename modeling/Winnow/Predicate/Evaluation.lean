import Winnow.Predicate.Relation
import Winnow.Predicate.Walk

/-!
Evaluation of predicates on an element. Variables stand for the items that the subqueries around an
expression have reached.
-/

namespace Winnow

/-- The values of variables; of two with one name the first counts. -/
abbrev Scope := List (String × Json)

/-- What a path leads to from an element: from the element itself, a variable, or a member. -/
def resolve (element : Json) (scope : Scope) : List String → Except QueryFault Json
  | [] => .ok element
  | head :: rest =>
    if head = selfName then element.walk rest
    else
      match head.toList with
      | '$' :: _ =>
        match scope.lookup head with
        | some value => value.walk rest
        | none => .error (.unboundVariable head)
      | '@' :: _ => element.walk (head :: rest)
      | _ => ((element.get? head).getD .null).walk rest
where
  selfName : String := "SELF"

/-- The items of the collection of a subquery; nothing is a collection without items. -/
def collectionItems : Json → Except QueryFault (List Json)
  | .array items => .ok items
  | .null => .ok []
  | other => .error (.notCollection "SUBQUERY" other.write)

/-- The values for which a test holds, up to the first error. -/
def keepIf {α : Type} (test : α → Except QueryFault Bool) : List α → Except QueryFault (List α)
  | [] => .ok []
  | x :: rest =>
    match test x with
    | .error e => .error e
    | .ok kept =>
      match keepIf test rest with
      | .error e => .error e
      | .ok others => .ok (if kept then x :: others else others)

mutual

def Expression.evaluate (element : Json) (scope : Scope) : Expression → Except QueryFault Json
  | .path steps => resolve element scope steps
  | .value v => .ok v
  | .list items =>
    match Expression.evaluateAll element scope items with
    | .ok values => .ok (.array values)
    | .error e => .error e
  | .subquery collection name body steps =>
    match resolve element scope collection with
    | .error e => .error e
    | .ok v =>
      match collectionItems v with
      | .error e => .error e
      | .ok items =>
        match keepIf (fun item => body.holds element ((name, item) :: scope)) items with
        | .error e => .error e
        | .ok kept => (Json.array kept).walk steps

def Expression.evaluateAll (element : Json) (scope : Scope) :
    List Expression → Except QueryFault (List Json)
  | [] => .ok []
  | item :: rest =>
    match item.evaluate element scope with
    | .error e => .error e
    | .ok value =>
      match Expression.evaluateAll element scope rest with
      | .error e => .error e
      | .ok values => .ok (value :: values)

/-- A predicate holds. The right side is looked at only if the left side leaves it open. -/
def Predicate.holds (element : Json) (scope : Scope) : Predicate → Except QueryFault Bool
  | .constant b => .ok b
  | .and left right =>
    match left.holds element scope with
    | .ok true => right.holds element scope
    | other => other
  | .or left right =>
    match left.holds element scope with
    | .ok false => right.holds element scope
    | other => other
  | .compare any left relation folding right =>
    match left.evaluate element scope with
    | .error e => .error e
    | .ok l =>
      match right.evaluate element scope with
      | .error e => .error e
      | .ok r =>
        .ok (if any then (l.items?.getD []).any (relation.holds folding · r)
          else relation.holds folding l r)

end

end Winnow
