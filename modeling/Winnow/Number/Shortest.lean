import Winnow.Number.Numeral

/-!
The shortest decimal that reads back. The reals that round to a number of a binary format form an
interval; of all decimal grids with a point in it the coarsest is taken, and on it the point nearest
to the number. Everything is computed on whole multiples of the finest decimal place in which the
number and the ends of its interval are exact.
-/

namespace Winnow

/-- The reals that round to one rank, in a common unit: the number itself, its two ends, and whether
the ends belong to the interval. -/
structure Interval where
  value : Nat
  lower : Nat
  upper : Nat
  closed : Bool

namespace Interval

def contains (i : Interval) (x : Nat) : Bool :=
  if i.closed then i.lower ≤ x && x ≤ i.upper else i.lower < x && x < i.upper

/-- The multiple of `grid` in the interval that is nearest to the number, as a count of grid steps.
A tie goes to the even count. -/
def nearestOn? (i : Interval) (grid : Nat) : Option Nat :=
  let below := i.value / grid
  let rest := i.value % grid
  match i.contains (below * grid), i.contains ((below + 1) * grid) with
  | true, true =>
    some (if 2 * rest < grid ∨ 2 * rest = grid ∧ below % 2 = 0 then below else below + 1)
  | true, false => some below
  | false, true => some (below + 1)
  | false, false => none

/-- The coarsest power of ten up to `places` with a multiple in the interval, as the count and the
exponent. With no places left the number is written exactly. -/
def coarsest (i : Interval) : Nat → Nat × Nat
  | 0 => (i.value, 0)
  | places + 1 =>
    match i.nearestOn? (Nat.pow 10 (places + 1)) with
    | some count => (count, places + 1)
    | none => i.coarsest places

end Interval

namespace BinaryFormat

/-- The reals that round to a positive rank, in units of ten to the power of minus `depth + 1`. -/
def interval (f : BinaryFormat) (rank : Nat) : Interval :=
  let scale := Nat.pow 5 (f.depth + 1)
  { value := 2 * f.units rank * scale
    lower := (f.units (rank - 1) + f.units rank) * scale
    upper := (f.units rank + f.units (rank + 1)) * scale
    closed := rank % 2 == 0 }

/-- A power of ten above a number: 0.30103 exceeds the decimal logarithm of two. -/
def placesAbove (n : Nat) : Nat := (n.log2 + 1) * 30103 / 100000 + 1

def shortest (f : BinaryFormat) (rank : Nat) : Nat × Int :=
  if rank = 0 then (0, 0)
  else
    let i := f.interval rank
    let (count, places) := i.coarsest (placesAbove i.upper)
    (count, places - (f.depth + 1 : Int))

end BinaryFormat

def Finite.toDecimal {f : BinaryFormat} (x : Finite f) : Decimal :=
  let (coefficient, exponent) := f.shortest x.rank
  ⟨x.negative, coefficient, exponent⟩

end Winnow
