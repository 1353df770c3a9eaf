import OwlScript.Number.Binary64

namespace OwlScript.Number

/-!
# Shortest decimal of a binary fraction

Among the decimals that round to a given double, the shortest ones lie on the
coarsest power-of-ten grid that has any.  The grids are tried from coarse to
fine, and on each only the two neighbours of the double need a look.  All
comparisons are between integers: a grid step and the binary unit are scaled
to one common unit.
-/

/-- The number `coefficient * 10 ^ exponent`. -/
structure Decimal where
  coefficient : Nat
  exponent : Int
  deriving Repr, DecidableEq

/--
The interval of reals that round to one double, in quarters of its last bit.
The ends belong to it if and only if the mantissa is even.
-/
structure RoundingInterval where
  low : Nat
  middle : Nat
  high : Nat
  exponent : Int
  closed : Bool
  deriving Repr, DecidableEq

namespace RoundingInterval

/--
The interval around `mantissa * 2 ^ exponent`.  Below a power of two the
doubles are twice as dense, so there the lower end is half as far away.
-/
def around (mantissa : Nat) (exponent : Int) : RoundingInterval where
  low :=
    if mantissa = Binary64.fullMantissa ∧ Binary64.leastExponent < exponent then
      4 * mantissa - 1
    else
      4 * mantissa - 2
  middle := 4 * mantissa
  high := 4 * mantissa + 2
  exponent := exponent - 2
  closed := mantissa % 2 == 0

/-- The size of a grid step `10 ^ grid` in the common unit. -/
def gridStep (interval : RoundingInterval) (grid : Int) : Nat :=
  tenTo grid.toNat * twoTo (-interval.exponent).toNat

/-- The size of a quarter bit of the interval in the common unit. -/
def binaryStep (interval : RoundingInterval) (grid : Int) : Nat :=
  twoTo interval.exponent.toNat * tenTo (-grid).toNat

/-- Whether `coefficient * 10 ^ grid` lies in the interval. -/
def holds
    (interval : RoundingInterval)
    (grid : Int)
    (coefficient : Nat) :
    Bool :=
  let point := coefficient * interval.gridStep grid
  let low := interval.low * interval.binaryStep grid
  let high := interval.high * interval.binaryStep grid
  if interval.closed then
    low ≤ point && point ≤ high
  else
    low < point && point < high

/--
The point of the grid that lies in the interval and is nearest to its middle.
Of two points equally near, the greater one is taken.
-/
def nearestOnGrid (interval : RoundingInterval) (grid : Int) : Option Nat :=
  let step := interval.gridStep grid
  let middle := interval.middle * interval.binaryStep grid
  let below := middle / step
  let excess := middle % step
  if excess = 0 then
    some below
  else
    match interval.holds grid below, interval.holds grid (below + 1) with
    | true, true => some (if step ≤ 2 * excess then below + 1 else below)
    | true, false => some below
    | false, true => some (below + 1)
    | false, false => none

/-- The first hit on the given number of grids, each ten times finer. -/
def searchGrids
    (interval : RoundingInterval) :
    Nat → Int → Option Decimal
  | 0, _ => none
  | grids + 1, grid =>
      match interval.nearestOnGrid grid with
      | some coefficient => some ⟨coefficient, grid⟩
      | none => searchGrids interval grids (grid - 1)

end RoundingInterval

/-- The number `mantissa * 2 ^ exponent` itself as a decimal. -/
def exactDecimal (mantissa : Nat) (exponent : Int) : Decimal :=
  if 0 ≤ exponent then
    ⟨mantissa * twoTo exponent.toNat, 0⟩
  else
    ⟨mantissa * Nat.pow 5 (-exponent).toNat, exponent⟩

/-- A grid so coarse that its step is greater than `mantissa * 2 ^ exponent`. -/
def coarsestGrid (mantissa : Nat) (exponent : Int) : Int :=
  (mantissa.log2 + 1 + exponent) * 30103 / 100000 + 1

/--
A shortest decimal that rounds to the positive double `mantissa * 2 ^ exponent`,
and of those the nearest.  Seventeen digits always suffice, so the search over
twenty grids from the coarsest on ends with a hit, and the exact decimal that
would stand in for one rounds to the double as well.
-/
def shortestDecimal (mantissa : Nat) (exponent : Int) : Decimal :=
  ((RoundingInterval.around mantissa exponent).searchGrids 20
    (coarsestGrid mantissa exponent)).getD (exactDecimal mantissa exponent)

end OwlScript.Number
