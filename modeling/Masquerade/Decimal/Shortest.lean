import Masquerade.Decimal.Rounding

/-!
# Shortest decimals

A binary32 number stands for every real number that rounds to it. `shortest` finds a decimal with
the fewest significant digits among those, and of several the one next to the number itself. The
search goes through the grids of one, two, … nine digits: if a grid meets the interval of reals that
round to the number, then one of the number's two neighbours on that grid lies in it.
-/

open Float.Model

namespace Masquerade.Decimal

/-- The decimal number `digits * 10 ^ exponent`. -/
structure Scaled where
  digits : Nat
  exponent : Int
  deriving DecidableEq

/-- The reals that round to one binary number, in units of `2 ^ unit`. -/
structure Interval where
  low : Nat
  value : Nat
  high : Nat
  unit : Int
  /-- The two ends round to the number as well. -/
  closed : Bool

/-- The reals that round to the binary32 number `m * 2 ^ e`. The gap below a power of two is half the
gap above it, unless the number is at the bottom of the range. The ends belong to the interval when
`m` is even, because a tie goes to the even neighbour. -/
def Interval.ofBinary32 (m : Nat) (e : Int) : Interval :=
  let gap := if m = 0x800000 ∧ -149 < e then 1 else 2
  ⟨4 * m - gap, 4 * m, 4 * m + 2, e - 2, m % 2 == 0⟩

/-- The positive fraction `n * 2 ^ e` as numerator and denominator. -/
def binaryFraction (n : Nat) (e : Int) : Nat × Nat :=
  (n <<< e.toNat, 1 <<< (-e).toNat)

namespace Interval

/-- Whether `n * 10 ^ place` lies in the interval. -/
def contains (i : Interval) (n : Nat) (place : Int) : Bool :=
  let (scale, base) := binaryFraction 1 i.unit
  let point := n * tenTo place.toNat * base
  let unit := scale * tenTo (-place).toNat
  if i.closed then
    decide (i.low * unit ≤ point) && decide (point ≤ i.high * unit)
  else
    decide (i.low * unit < point) && decide (point < i.high * unit)

/-- The point of the grid `10 ^ place` that is next to the number, if the grid meets the interval. -/
def nearest? (i : Interval) (tie : Tie) (place : Int) : Option Nat :=
  let (num, den) := binaryFraction i.value i.unit
  let num := num * tenTo (-place).toNat
  let den := den * tenTo place.toNat
  let low := num / den
  let inside := [low, low + 1].filter (i.contains · place)
  let chosen := roundDiv tie num den
  if chosen ∈ inside then some chosen else inside.head?

end Interval

/-- The decimal with the fewest digits that rounds to the positive binary32 number `m * 2 ^ e`, and
among those the nearest; `tie` decides between two that are equally near. -/
def shortest (tie : Tie) (m : Nat) (e : Int) : Scaled :=
  let i := Interval.ofBinary32 m e
  let (num, den) := binaryFraction m e
  let lead := leadingPlace num den
  let grids := (List.range 9).map fun (n : Nat) => lead - n
  match grids.findSome? (fun place => (i.nearest? tie place).map (⟨·, place⟩)) with
  | some found => found
  | none => ⟨num, 0⟩

end Masquerade.Decimal
