import Winnow.Number.Binary

/-!
Rounding of exact fractions to the nearest number of a format. A fraction half way between two
neighbours goes to the one of even rank. Sums, quotients, integers and changes of format are all
computed exactly and then rounded once.
-/

namespace Winnow

/-- The rank nearest to `numerator / denominator` units, a tie going to the even rank. -/
def BinaryFormat.nearest (f : BinaryFormat) (numerator denominator : Nat) : Nat :=
  let step := (numerator / denominator).log2 - f.fractionBits
  let unit := denominator * Nat.pow 2 step
  let floor := step * Nat.pow 2 f.fractionBits + numerator / unit
  let excess := 2 * (numerator % unit)
  if excess < unit ∨ excess = unit ∧ floor % 2 = 0 then floor else floor + 1

namespace Binary

variable {f : BinaryFormat}

def ofRatio (negative : Bool) (numerator denominator : Nat) : Binary f :=
  ofRank negative (f.nearest (numerator * Nat.pow 2 f.depth) denominator)

def ofInt (n : Int) : Binary f := ofRatio (n < 0) n.natAbs 1

def convert {g : BinaryFormat} : Binary f → Binary g
  | nan => nan
  | infinity negative => infinity negative
  | finite x => ofRatio x.negative (f.units x.rank) (Nat.pow 2 f.depth)

/-- The sum. An exact zero is negative only if both summands are. -/
def add : Binary f → Binary f → Binary f
  | nan, _ => nan
  | _, nan => nan
  | infinity s, infinity t => if s = t then infinity s else nan
  | infinity s, finite _ => infinity s
  | finite _, infinity t => infinity t
  | finite x, finite y =>
    let sum := x.signedUnits + y.signedUnits
    if sum = 0 then ofRank (x.negative && y.negative) 0
    else ofRank (sum < 0) (f.nearest sum.natAbs 1)

/-- The sum of a list from left to right. The empty sum is the negative zero, which changes no
summand. -/
def sum (xs : List (Binary f)) : Binary f := xs.foldl add (ofRank true 0)

def divide (x : Binary f) (n : Nat) : Binary f :=
  match x with
  | nan => nan
  | infinity negative => infinity negative
  | finite x => ofRank x.negative (f.nearest (f.units x.rank) n)

/-- The greatest of a list, or nothing if it is empty. Of equal numbers the first is kept. -/
def greatest? : List (Binary f) → Option (Binary f)
  | [] => none
  | x :: xs => some (xs.foldl (fun best y => if best.less y then y else best) x)

def least? : List (Binary f) → Option (Binary f)
  | [] => none
  | x :: xs => some (xs.foldl (fun best y => if y.less best then y else best) x)

end Binary

end Winnow
