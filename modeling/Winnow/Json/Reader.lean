import Winnow.Json.Fraction
import Winnow.Text.Hexadecimal

/-!
Reading documents from text. A reader takes the characters that are left and returns its result with
the rest of them. Fractions are read in a given format, and how deep arrays and objects may nest is
bounded by an argument.
-/

namespace Winnow.Json

def skipBlanks (text : List Char) : List Char :=
  text.dropWhile fun c => c == ' ' || c == '\t' || c == '\n' || c == '\r'

def codeUnit? (a b c d : Char) : Option Nat := Text.ofHex? [a, b, c, d]

def joinSurrogates? (high low : Nat) : Option Char :=
  if 0xD800 ≤ high ∧ high < 0xDC00 ∧ 0xDC00 ≤ low ∧ low < 0xE000 then
    some (Char.ofNat (0x10000 + (high - 0xD800) * 0x400 + (low - 0xDC00)))
  else none

/-- The character of a code unit that is no surrogate. -/
def unitChar? (n : Nat) : Option Char :=
  if 0xD800 ≤ n ∧ n < 0xE000 then none else some (Char.ofNat n)

def consChar (c : Char) (r : Option (List Char × List Char)) : Option (List Char × List Char) :=
  r.map fun (text, rest) => (c :: text, rest)

def readString : List Char → Option (List Char × List Char)
  | [] => none
  | '"' :: rest => some ([], rest)
  | '\\' :: '"' :: rest => consChar '"' (readString rest)
  | '\\' :: '\\' :: rest => consChar '\\' (readString rest)
  | '\\' :: '/' :: rest => consChar '/' (readString rest)
  | '\\' :: 'b' :: rest => consChar '\x08' (readString rest)
  | '\\' :: 'f' :: rest => consChar '\x0c' (readString rest)
  | '\\' :: 'n' :: rest => consChar '\n' (readString rest)
  | '\\' :: 'r' :: rest => consChar '\r' (readString rest)
  | '\\' :: 't' :: rest => consChar '\t' (readString rest)
  | '\\' :: 'u' :: a :: b :: c :: d :: rest =>
    match codeUnit? a b c d with
    | none => none
    | some unit =>
      match unitChar? unit with
      | some char => consChar char (readString rest)
      | none =>
        match rest with
        | '\\' :: 'u' :: e :: f :: g :: h :: more =>
          match (codeUnit? e f g h).bind (joinSurrogates? unit) with
          | some char => consChar char (readString more)
          | none => none
        | _ => none
  | '\\' :: _ => none
  | c :: rest => if c.toNat < 0x20 then none else consChar c (readString rest)

/-- A numeral as documents write it: digits around the point, and no idle zero in front. -/
def isStrict (n : Numeral) : Bool :=
  (n.whole == ['0'] || !n.whole.isEmpty && n.whole.head? != some '0') &&
    n.fraction.all (!·.isEmpty)

/-- The whole number of a numeral without fraction and exponent, if it fits into 64 bits with or
without a sign. The negative zero is no whole number. -/
def wholeOf? (n : Numeral) : Option Int :=
  let size := n.value.coefficient
  if !n.isWhole then none
  else if n.negative then if size = 0 ∨ Nat.pow 2 63 < size then none else some (-(size : Int))
  else if size < Nat.pow 2 64 then some size
  else none

/-- The number of a numeral, given its text. What is no whole number of 64 bits is a fraction. -/
def numberOf? (f : FractionFormat) (n : Numeral) (text : List Char) : Option JsonNumber :=
  match wholeOf? n with
  | some m => some (.integer m)
  | none => (f.read? (String.ofList text)).map .float

def readNumber (f : FractionFormat) (text : List Char) : Option (JsonNumber × List Char) :=
  match Numeral.scan text with
  | some (n, rest) =>
    if isStrict n then
      (numberOf? f n (text.take (text.length - rest.length))).map (·, rest)
    else none
  | none => none

def readRow {α : Type} (item : List Char → Option (α × List Char)) (close : Char)
    (text : List Char) : Option (List α × List Char) :=
  match item text with
  | none => none
  | some (value, rest) =>
    match skipBlanks rest with
    | [] => none
    | c :: more =>
      if c = close then some ([value], more)
      else if c = ',' ∧ more.length < text.length then
        (readRow item close more).map fun (values, rest) => (value :: values, rest)
      else none
termination_by text.length

/-- Reads items up to a closing bracket, or none of them. -/
def readRow? {α : Type} (item : List Char → Option (α × List Char)) (close : Char)
    (text : List Char) : Option (List α × List Char) :=
  match skipBlanks text with
  | [] => none
  | c :: rest => if c = close then some ([], rest) else readRow item close (c :: rest)

/-- Reads a member of an object: a string, a colon and what `value` reads. -/
def readMember (value : List Char → Option (Json × List Char)) (text : List Char) :
    Option ((String × Json) × List Char) :=
  match skipBlanks text with
  | '"' :: rest =>
    match readString rest with
    | none => none
    | some (key, rest) =>
      match skipBlanks rest with
      | ':' :: rest => (value rest).map fun (v, rest) => ((String.ofList key, v), rest)
      | _ => none
  | _ => none

/-- Reads a document in which arrays and objects nest at most `depth` deep. -/
def readValue (f : FractionFormat) (depth : Nat) (text : List Char) : Option (Json × List Char) :=
  match skipBlanks text with
  | 'n' :: 'u' :: 'l' :: 'l' :: rest => some (null, rest)
  | 't' :: 'r' :: 'u' :: 'e' :: rest => some (bool true, rest)
  | 'f' :: 'a' :: 'l' :: 's' :: 'e' :: rest => some (bool false, rest)
  | '"' :: rest => (readString rest).map fun (s, rest) => (string (String.ofList s), rest)
  | '[' :: rest =>
    match depth with
    | 0 => none
    | depth + 1 =>
      (readRow? (readValue f depth) ']' rest).map fun (items, rest) => (array items, rest)
  | '{' :: rest =>
    match depth with
    | 0 => none
    | depth + 1 =>
      (readRow? (readMember (readValue f depth)) '}' rest).map fun (members, rest) =>
        (ofMembers members, rest)
  | other => (readNumber f other).map fun (n, rest) => (number n, rest)

theorem readValue_array_zero (f : FractionFormat) (text : List Char) :
    readValue f 0 ('[' :: text) = none := by
  rw [readValue, skipBlanks]
  rfl

def readIn? (f : FractionFormat) (depth : Nat) (text : String) : Option Json :=
  match readValue f depth text.toList with
  | some (value, rest) => if (skipBlanks rest).isEmpty then some value else none
  | none => none

def ofText? (depth : Nat) (text : String) : Option Json := readIn? .nearest depth text

end Winnow.Json
