import Winnow.Json.Printer
import Winnow.Predicate.Token

/-!
Following a path from a value. A name leads to the member of an object, and from an array to the
array of what it leads to from each item. A function begins with an at sign and takes what the rest
of the path leads to from each item of a collection.
-/

namespace Winnow

def functionName? (step : String) : Option String :=
  match step.toList with
  | '@' :: name => some (String.ofList name)
  | _ => none

def applyFunction (name : String) (numbers : List Double) : Except QueryFault Json :=
  if name = "sum" then .ok (.ofDouble (.sum numbers))
  else if name = "avg" then
    .ok (if numbers.isEmpty then .null
      else .ofDouble ((Binary.sum numbers).divide numbers.length))
  else if name = "max" then .ok (((Binary.greatest? numbers).map Json.ofDouble).getD .null)
  else if name = "min" then .ok (((Binary.least? numbers).map Json.ofDouble).getD .null)
  else .error (.unknownAggregate name)

namespace Json

/-- What a path leads to where there is nothing: nothing again, and a collection without items for a
function. -/
def walkNull : List String → Except QueryFault Json
  | [] => .ok null
  | step :: _ =>
    match functionName? step with
    | none => .ok null
    | some name => if name = "count" then .ok (ofInt 0) else applyFunction name []

/-- What a path leads to from a value without members and items. -/
def walkScalar (v : Json) : List String → Except QueryFault Json
  | [] => .ok v
  | step :: _ =>
    match functionName? step with
    | none => .ok null
    | some name => .error (.notCollection ("@" ++ name) v.write)

mutual

def walk : Json → List String → Except QueryFault Json
  | v, [] => .ok v
  | null, path => walkNull path
  | array items, step :: rest =>
    match functionName? step with
    | none =>
      match walkItems items (step :: rest) with
      | .ok values => .ok (array values)
      | .error e => .error e
    | some name =>
      if name = "count" then .ok (ofInt items.length)
      else
        match walkItems items rest with
        | .ok values => applyFunction name (values.filterMap toDouble?)
        | .error e => .error e
  | object members, step :: rest =>
    match functionName? step with
    | none => walkMember members step rest
    | some name => .error (.notCollection ("@" ++ name) (object members).write)
  | bool b, path => walkScalar (bool b) path
  | number n, path => walkScalar (number n) path
  | string s, path => walkScalar (string s) path

def walkItems : List Json → List String → Except QueryFault (List Json)
  | [], _ => .ok []
  | item :: rest, path =>
    match walk item path with
    | .error e => .error e
    | .ok value =>
      match walkItems rest path with
      | .error e => .error e
      | .ok values => .ok (value :: values)

def walkMember : List (String × Json) → String → List String → Except QueryFault Json
  | [], _, path => walkNull path
  | (k, v) :: rest, key, path => if k = key then walk v path else walkMember rest key path

end

@[simp] theorem walk_nil (v : Json) : v.walk [] = .ok v := by
  cases v <;> simp [walk]

end Json

end Winnow
