import Winnow.Argument.Basic
import Winnow.Json.Reader

/-!
Arguments as documents. The kind of an argument is not written down, so it is told from the document
alone: a whole number that fits is an integer, every other number a fraction, and an object is
nothing. How documents are written and read is left to a `DocumentFormat`.
-/

namespace Winnow

structure DocumentFormat where
  write : Json → String
  read? : String → Option Json

/-- The compact text of a document. Nothing is read that nests 128 deep. -/
def DocumentFormat.compact : DocumentFormat := ⟨Json.write, Json.ofText? 127⟩

/-- A whole number as a signed word of 64 bits, if it fits. -/
def word? (n : Int) : Option Int64 :=
  if Int64.minValue.toInt ≤ n ∧ n ≤ Int64.maxValue.toInt then some (Int64.ofInt n) else none

namespace Argument

mutual

/-- The document of an argument. A fraction that is not finite becomes null. -/
def toJson : Argument → Json
  | null => .null
  | bool b => .bool b
  | integer n => .ofInt n.toInt
  | float x => .ofDouble x
  | text s => .string s
  | list items => .array (toJsonItems items)

def toJsonItems : List Argument → List Json
  | [] => []
  | item :: rest => item.toJson :: toJsonItems rest

end

def ofNumber : JsonNumber → Argument
  | .integer n =>
    match word? n with
    | some w => integer w
    | none => float (.ofInt n)
  | .float x => float (.finite x)

mutual

def ofJson? : Json → Option Argument
  | .null => some null
  | .bool b => some (bool b)
  | .number n => some (ofNumber n)
  | .string s => some (text s)
  | .array items => (ofJsonItems? items).map list
  | .object _ => none

def ofJsonItems? : List Json → Option (List Argument)
  | [] => some []
  | item :: rest =>
    match ofJson? item with
    | some argument => (ofJsonItems? rest).map (argument :: ·)
    | none => none

end

def writeIn (d : DocumentFormat) (argument : Argument) : String := d.write argument.toJson

def write (argument : Argument) : String := argument.writeIn .compact

def readIn? (d : DocumentFormat) (text : String) : Option Argument :=
  (d.read? text).bind ofJson?

def ofText? (text : String) : Option Argument := readIn? .compact text

end Argument

end Winnow
