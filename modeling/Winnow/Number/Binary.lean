/-!
Binary floating-point numbers as exact values. The magnitudes of a format are numbered in increasing
order by their rank, so comparing numbers is comparing ranks, and `units` gives the exact size of a
magnitude as a multiple of the least positive one.
-/

namespace Winnow

structure BinaryFormat where
  fractionBits : Nat
  exponentBits : Nat
deriving DecidableEq

namespace BinaryFormat

def single : BinaryFormat := ⟨23, 8⟩

def double : BinaryFormat := ⟨52, 11⟩

/-- The rank of infinity: finite magnitudes have the ranks below it. -/
def top (f : BinaryFormat) : Nat := (Nat.pow 2 f.exponentBits - 1) * Nat.pow 2 f.fractionBits

/-- The least positive magnitude is two to the power of minus this number. -/
def depth (f : BinaryFormat) : Nat := Nat.pow 2 (f.exponentBits - 1) - 2 + f.fractionBits

/-- How often the distance between neighbours has doubled below a rank. -/
def doublings (f : BinaryFormat) (rank : Nat) : Nat := rank / Nat.pow 2 f.fractionBits - 1

/-- The magnitude of a rank in units of the least positive magnitude. -/
def units (f : BinaryFormat) (rank : Nat) : Nat :=
  (rank - f.doublings rank * Nat.pow 2 f.fractionBits) * Nat.pow 2 (f.doublings rank)

end BinaryFormat

/-- A finite number of a format: a sign and a magnitude. Zero has both signs. -/
structure Finite (f : BinaryFormat) where
  negative : Bool
  rank : Fin f.top
deriving DecidableEq

inductive Binary (f : BinaryFormat) where
  | nan
  | infinity (negative : Bool)
  | finite (x : Finite f)
deriving DecidableEq

abbrev Single := Binary .single

abbrev Double := Binary .double

namespace Finite

variable {f : BinaryFormat}

/-- The signed rank. It orders finite numbers, and both zeros have the key zero. -/
def key (x : Finite f) : Int := if x.negative then -(x.rank.val : Int) else x.rank.val

def signedUnits (x : Finite f) : Int :=
  if x.negative then -(f.units x.rank : Int) else f.units x.rank

end Finite

namespace Binary

variable {f : BinaryFormat}

/-- The place of a number in the order of numbers; not-a-number has none. -/
def key? : Binary f → Option Int
  | nan => none
  | infinity negative => some (if negative then -(f.top : Int) else f.top)
  | finite x => some x.key

def compare? (x y : Binary f) : Option Ordering :=
  match x.key?, y.key? with
  | some a, some b => some (compare a b)
  | _, _ => none

/-- Numeric equality: the zeros are equal and not-a-number differs from itself. -/
def same (x y : Binary f) : Bool := x.compare? y == some .eq

def less (x y : Binary f) : Bool := x.compare? y == some .lt

def isFinite : Binary f → Bool
  | finite _ => true
  | _ => false

/-- The number of a sign and a rank. A rank past the greatest finite one is infinity. -/
def ofRank (negative : Bool) (rank : Nat) : Binary f :=
  if h : rank < f.top then finite ⟨negative, rank, h⟩ else infinity negative

/-- The number with the given pattern of bits: sign, then exponent, then fraction. -/
def ofBits (bits : Nat) : Binary f :=
  let signWeight := Nat.pow 2 (f.exponentBits + f.fractionBits)
  let magnitude := bits % signWeight
  if magnitude ≤ f.top then ofRank (bits / signWeight % 2 == 1) magnitude else nan

end Binary

end Winnow
