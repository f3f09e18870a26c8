import Winnow.Number.Rounding

/-!
Decimal numerals in text: sign, digits, fraction and exponent. A numeral is read as it is written,
and its value is rounded once to the format that is asked for.
-/

namespace Winnow

/-- A decimal number, `coefficient` times ten to the power of `exponent`. -/
structure Decimal where
  negative : Bool
  coefficient : Nat
  exponent : Int
deriving DecidableEq

/-- The nearest number of a binary format. A number that is too large or too small for the format
by its exponent alone is decided before any power of ten is computed. -/
def Decimal.toBinary (d : Decimal) (f : BinaryFormat) : Binary f :=
  if d.coefficient = 0 then .ofRank d.negative 0
  else if (Nat.pow 2 (f.exponentBits - 1) : Int) ≤ d.exponent then .infinity d.negative
  else if 0 ≤ d.exponent then .ofRatio d.negative (d.coefficient * Nat.pow 10 d.exponent.toNat) 1
  else
    let places := d.exponent.natAbs
    if d.coefficient.log2 + f.depth + 3 ≤ 3 * places then .ofRank d.negative 0
    else .ofRatio d.negative d.coefficient (Nat.pow 10 places)

def digitsValue (digits : List Char) : Nat :=
  digits.foldl (fun n c => 10 * n + (c.toNat - '0'.toNat)) 0

structure Numeral where
  negative : Bool
  whole : List Char
  fraction : Option (List Char)
  exponent : Option (Bool × List Char)
deriving DecidableEq

namespace Numeral

def scanSign : List Char → Bool × List Char
  | '-' :: rest => (true, rest)
  | '+' :: rest => (false, rest)
  | text => (false, text)

def scanExponent : List Char → Option (Option (Bool × List Char) × List Char)
  | c :: text =>
    if c = 'e' ∨ c = 'E' then
      let (negative, rest) := scanSign text
      match rest.takeWhile Char.isDigit with
      | [] => none
      | digits => some (some (negative, digits), rest.dropWhile Char.isDigit)
    else some (none, c :: text)
  | [] => some (none, [])

def scanFraction : List Char → Option (List Char) × List Char
  | '.' :: text => (some (text.takeWhile Char.isDigit), text.dropWhile Char.isDigit)
  | text => (none, text)

def scanUnsigned (negative : Bool) (text : List Char) : Option (Numeral × List Char) :=
  let whole := text.takeWhile Char.isDigit
  let (fraction, rest) := scanFraction (text.dropWhile Char.isDigit)
  (scanExponent rest).map fun (exponent, rest) => (⟨negative, whole, fraction, exponent⟩, rest)

/-- Reads the longest numeral at the front of a text, and what follows it. -/
def scan : List Char → Option (Numeral × List Char)
  | '-' :: text => scanUnsigned true text
  | text => scanUnsigned false text

def hasDigits (n : Numeral) : Bool := !n.whole.isEmpty || n.fraction.any (!·.isEmpty)

/-- Neither a fraction nor an exponent is written. -/
def isWhole (n : Numeral) : Bool := n.fraction.isNone && n.exponent.isNone

def value (n : Numeral) : Decimal :=
  let fraction := n.fraction.getD []
  let scale : Int := match n.exponent with
    | none => 0
    | some (true, digits) => -(digitsValue digits : Int)
    | some (false, digits) => digitsValue digits
  ⟨n.negative, digitsValue (n.whole ++ fraction), scale - fraction.length⟩

def ofText? (text : List Char) : Option Numeral :=
  match scan text with
  | some (n, []) => if n.hasDigits then some n else none
  | _ => none

end Numeral

end Winnow
