import Winnow.Number.Shortest

/-!
Written forms of numbers. A `Layout` says which numbers are written positionally, whether a whole
number keeps a fraction, and how an exponent looks; the digits are the same in every layout.
-/

namespace Winnow

structure Layout where
  /-- Places of the decimal point, counted from the first digit, that are written positionally; any
  place if nothing is given. -/
  positional : Option (Int × Int)
  keepsFraction : Bool
  signsExponent : Bool
deriving DecidableEq

namespace Layout

def plain : Layout := ⟨none, false, false⟩

/-- Positional from 0.0001 up to 10 to the 16th, with an unsigned exponent outside. -/
def general : Layout := ⟨some (-3, 16), true, false⟩

/-- Positional from 0.00001 up to 10 to the 16th, with a signed exponent outside. -/
def json : Layout := ⟨some (-4, 16), true, true⟩

def zeros (n : Nat) : List Char := List.replicate n '0'

/-- The digits around a point that stands `point` places after the first of them. -/
def positionally (l : Layout) (digits : List Char) (point : Int) : List Char :=
  if point ≤ 0 then '0' :: '.' :: zeros (-point).toNat ++ digits
  else if digits.length ≤ point.toNat then
    digits ++ zeros (point.toNat - digits.length) ++ if l.keepsFraction then ['.', '0'] else []
  else digits.take point.toNat ++ '.' :: digits.drop point.toNat

def scientifically (l : Layout) (digits : List Char) (point : Int) : List Char :=
  let fraction := match digits.drop 1 with
    | [] => []
    | more => '.' :: more
  let power := point - 1
  let sign := if power < 0 then ['-'] else if l.signsExponent then ['+'] else []
  digits.take 1 ++ fraction ++ 'e' :: sign ++ Nat.toDigits 10 power.natAbs

def write (l : Layout) (d : Decimal) : List Char :=
  let sign := if d.negative then ['-'] else []
  if d.coefficient = 0 then sign ++ '0' :: if l.keepsFraction then ['.', '0'] else []
  else
    let digits := Nat.toDigits 10 d.coefficient
    let point := digits.length + d.exponent
    let isPositional := l.positional.all fun (least, greatest) => least ≤ point && point ≤ greatest
    sign ++ if isPositional then l.positionally digits point else l.scientifically digits point

end Layout

def Binary.write {f : BinaryFormat} (l : Layout) : Binary f → String
  | nan => "NaN"
  | infinity true => "-inf"
  | infinity false => "inf"
  | finite x => String.ofList (l.write x.toDecimal)

end Winnow
