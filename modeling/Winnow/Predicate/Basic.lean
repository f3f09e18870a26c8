import Winnow.Json.Basic

/-!
Predicates as trees, the form in which a query is evaluated.
-/

namespace Winnow

inductive Relation where
  | equal
  | notEqual
  | less
  | greater
  | member
  | between
  | contains
  | beginsWith
  | endsWith
deriving DecidableEq

/-- Which differences between texts are overlooked. -/
structure Folding where
  ignoresCase : Bool := false
  ignoresDiacritics : Bool := false
deriving DecidableEq

mutual

/-- A side of a comparison. -/
inductive Expression where
  | path (steps : List String)
  | value (v : Json)
  | list (items : List Expression)
  /-- The items of a collection that satisfy a predicate, with a path applied to them. -/
  | subquery (collection : List String) (name : String) (body : Predicate) (steps : List String)

inductive Predicate where
  | constant (b : Bool)
  | and (left right : Predicate)
  | or (left right : Predicate)
  /-- With `any` the relation is asked of some item of the left side. -/
  | compare (any : Bool) (left : Expression) (relation : Relation) (folding : Folding)
      (right : Expression)

end

def splitDots : List Char → List (List Char)
  | [] => [[]]
  | c :: rest =>
    if c = '.' then [] :: splitDots rest
    else
      match splitDots rest with
      | [] => [[c]]
      | piece :: pieces => (c :: piece) :: pieces

def pathSteps (path : String) : List String := (splitDots path.toList).map String.ofList

end Winnow
