import Winnow.Argument.Document

/-!
Values of the program that builds a query, and how each is bound to a placeholder.
-/

namespace Winnow

/-- A value that a field may be compared with. -/
inductive Value where
  | absent
  | bool (b : Bool)
  | integer (n : Int)
  | single (x : Single)
  | double (x : Double)
  | character (c : Char)
  | text (s : String)
  | duration (seconds nanoseconds : Nat)
  | uuid (id : BitVec 128)
  | argument (a : Argument)
  | sequence (items : List Value)

def hexDigits (count n : Nat) : List Char :=
  (List.range count).map fun i => Nat.digitChar (n / Nat.pow 16 (count - 1 - i) % 16)

/-- An identifier of 128 bits as groups of digits with hyphens between them. -/
def hyphenated (id : BitVec 128) : String :=
  let digits := hexDigits 32 id.toNat
  let group (start count : Nat) : List Char := (digits.drop start).take count
  String.ofList (List.intercalate ['-']
    [group 0 8, group 8 4, group 12 4, group 16 4, group 20 12])

namespace Value

def integerSet (items : List Int) : Value :=
  sequence ((items.mergeSort (· ≤ ·)).eraseReps.map integer)

def textSet (items : List String) : Value :=
  sequence ((items.mergeSort (fun a b => !(b < a))).eraseReps.map text)

/-- A whole number is bound as an integer if it fits and as the nearest fraction otherwise. -/
def bindInteger (n : Int) : Argument :=
  match word? n with
  | some w => .integer w
  | none => .float (.ofInt n)

def durationSeconds (seconds nanoseconds : Nat) : Double :=
  (Binary.ofInt seconds).add (.ofRatio false nanoseconds 1000000000)

mutual

/-- The argument that a value is bound as. A sequence is one argument. -/
def bind : Value → Argument
  | absent => .null
  | bool b => .bool b
  | integer n => bindInteger n
  | single x => .float x.convert
  | double x => .float x
  | character c => .text (String.singleton c)
  | text s => .text s
  | duration seconds nanoseconds => .float (durationSeconds seconds nanoseconds)
  | uuid id => .text (hyphenated id)
  | argument a => a
  | sequence items => .list (bindAll items)

def bindAll : List Value → List Argument
  | [] => []
  | item :: rest => item.bind :: bindAll rest

end

end Value

inductive Quantity where
  | integer (n : Int)
  | single (x : Single)
  | double (x : Double)

namespace Quantity

def toValue : Quantity → Value
  | integer n => .integer n
  | single x => .single x
  | double x => .double x

/-- The number as it is written into a query; what is not finite cannot be written. -/
def literal? : Quantity → Option String
  | integer n => some (toString n)
  | single x => if x.isFinite then some (x.write .plain) else none
  | double x => if x.isFinite then some (x.write .plain) else none

end Quantity

end Winnow
