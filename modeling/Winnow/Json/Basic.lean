import Winnow.Number.Rounding

/-!
Documents: the values that conditions are evaluated on. A number is a whole number or a finite
binary fraction, and an object holds its members in ascending order of their keys.
-/

namespace Winnow

inductive JsonNumber where
  | integer (n : Int)
  | float (x : Finite .double)
deriving DecidableEq

inductive Json where
  | null
  | bool (b : Bool)
  | number (n : JsonNumber)
  | string (text : String)
  | array (items : List Json)
  | object (members : List (String × Json))
deriving Inhabited

namespace JsonNumber

/-- The nearest binary number. -/
def toDouble : JsonNumber → Double
  | integer n => .ofInt n
  | float x => .finite x

def same : JsonNumber → JsonNumber → Bool
  | integer m, integer n => m == n
  | float x, float y => x.key == y.key
  | _, _ => false

end JsonNumber

namespace Json

/-- A number of a document; what is not finite becomes null. -/
def ofDouble : Double → Json
  | .finite x => number (.float x)
  | _ => null

def ofInt (n : Int) : Json := number (.integer n)

def toDouble? : Json → Option Double
  | number n => some n.toDouble
  | _ => none

def items? : Json → Option (List Json)
  | array items => some items
  | _ => none

def get? : Json → String → Option Json
  | object members, key => members.lookup key
  | _, _ => none

/-- Puts a member into a list with ascending keys, in place of one with the same key. -/
def insertMember (key : String) (value : Json) : List (String × Json) → List (String × Json)
  | [] => [(key, value)]
  | (k, v) :: rest =>
    if key = k then (key, value) :: rest
    else if key < k then (key, value) :: (k, v) :: rest
    else (k, v) :: insertMember key value rest

/-- The object with the given members; of two with one key the later counts. -/
def ofMembers (members : List (String × Json)) : Json :=
  object (members.foldl (fun sorted (key, value) => insertMember key value sorted) [])

mutual

/-- Equality of documents. The two zeros are equal, a whole number and a fraction never are. -/
def same : Json → Json → Bool
  | null, null => true
  | bool a, bool b => a == b
  | number m, number n => m.same n
  | string s, string t => s == t
  | array xs, array ys => sameItems xs ys
  | object xs, object ys => sameMembers xs ys
  | _, _ => false

def sameItems : List Json → List Json → Bool
  | [], [] => true
  | x :: xs, y :: ys => x.same y && sameItems xs ys
  | _, _ => false

def sameMembers : List (String × Json) → List (String × Json) → Bool
  | [], [] => true
  | (k, x) :: xs, (l, y) :: ys => k == l && x.same y && sameMembers xs ys
  | _, _ => false

end

end Json

end Winnow
