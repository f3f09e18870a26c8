import Winnow.Json.Fraction
import Winnow.Text.Quoted

/-!
The compact text of a document: no spaces, members in the order of their keys, and fractions in a
format of their own.
-/

namespace Winnow

def JsonNumber.writeIn (f : FractionFormat) : JsonNumber → String
  | integer n => toString n
  | float x => f.write x

namespace Json

/-- The escape of a character inside a string: short forms where there are any, and a code of four
digits for the other control characters. -/
def escape (c : Char) : List Char :=
  if c = '"' ∨ c = '\\' then ['\\', c]
  else if c = '\x08' then ['\\', 'b']
  else if c = '\x0c' then ['\\', 'f']
  else if c = '\n' then ['\\', 'n']
  else if c = '\r' then ['\\', 'r']
  else if c = '\t' then ['\\', 't']
  else if c.toNat < 0x20 then
    '\\' :: 'u' :: '0' :: '0' :: Nat.digitChar (c.toNat / 16) :: [Nat.digitChar (c.toNat % 16)]
  else [c]

def writeString (text : String) : String := Text.quote escape text

mutual

def writeIn (f : FractionFormat) : Json → String
  | null => "null"
  | bool true => "true"
  | bool false => "false"
  | number n => n.writeIn f
  | string text => writeString text
  | array items => "[" ++ writeItemsIn f items ++ "]"
  | object members => "\x7b" ++ writeMembersIn f members ++ "\x7d"

def writeItemsIn (f : FractionFormat) : List Json → String
  | [] => ""
  | [item] => item.writeIn f
  | item :: rest => item.writeIn f ++ "," ++ writeItemsIn f rest

def writeMembersIn (f : FractionFormat) : List (String × Json) → String
  | [] => ""
  | [(key, value)] => writeString key ++ ":" ++ value.writeIn f
  | (key, value) :: rest =>
    writeString key ++ ":" ++ value.writeIn f ++ "," ++ writeMembersIn f rest

end

def write (v : Json) : String := v.writeIn .nearest

end Json

end Winnow
