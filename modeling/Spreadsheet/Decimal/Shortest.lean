import Spreadsheet.Decimal.Basic
import Spreadsheet.Decimal.Binary

/-! The shortest decimal that reads back as a double: the point nearest to it on the coarsest grid
of powers of ten that has a point among the numbers rounding to the double. -/

namespace Spreadsheet.Decimal.Shortest

/-- The coarsest grid tried is this power of ten, above every finite double. -/
def coarsest : Nat := 309

/-- The finest grid tried is the inverse of this power of ten, far below the least double. -/
def finest : Nat := 344

/-- The numbers that round to a double, as a closed or an open interval around it. -/
structure Interval where
  low : Nat
  value : Nat
  high : Nat
  closed : Bool

/-- The interval of a magnitude's bits, in quarters of a unit. -/
def interval (bits : Nat) : Interval :=
  let value := 4 * Binary.unitsOfBits bits
  let exponent := bits / Binary.fractions
  let spacing := twoTo (exponent - 1)
  -- Below a power of two the neighbour is half as far away, unless the spacing is least already.
  let below := if bits % Binary.fractions = 0 ∧ 2 ≤ exponent then spacing else 2 * spacing
  ⟨value - below, value, value + 2 * spacing, bits % 2 = 0⟩

/-- Whether a number lies in an interval. -/
def Interval.contains (interval : Interval) (number : Nat) : Bool :=
  if interval.closed then interval.low ≤ number && number ≤ interval.high
  else interval.low < number && number < interval.high

/-- The multiple of a step that lies in the interval nearest to its value, as a count of steps. -/
def Interval.nearest? (interval : Interval) (step : Nat) : Option Nat :=
  let floor := interval.value / step
  let below := interval.contains (floor * step)
  let above := interval.contains ((floor + 1) * step)
  if below && above then
    -- Of two neighbours equally near, the larger one is taken.
    if 2 * (interval.value % step) < step then some floor else some (floor + 1)
  else if below then some floor
  else if above then some (floor + 1)
  else none

/-- The point in the interval on the coarsest grid that has one, as a count of steps, and that grid;
grids are powers of ten counted up from the finest, whose step is `one`. -/
def search (interval : Interval) (one : Nat) : Nat → Nat × Nat
  | 0 => (interval.value / one, 0)
  | grid + 1 =>
    match interval.nearest? (tenTo (grid + 1) * one) with
    | some count => (count, grid + 1)
    | none => search interval one grid

/-- The shortest decimal that reads back as the finite magnitude with these bits. -/
def decimalOfBits (bits : Nat) : Decimal :=
  if bits = 0 then ⟨0, 0⟩
  else
    let scale := tenTo finest
    let around := interval bits
    let scaled := { around with
      low := around.low * scale, value := around.value * scale, high := around.high * scale }
    let (count, grid) := search scaled (4 * Binary.unitsPerOne) (finest + coarsest)
    if finest ≤ grid then ⟨count * tenTo (grid - finest), 0⟩ else ⟨count, finest - grid⟩

/-- The text of a double: the shortest decimal, never with an exponent, a zero keeping its sign. -/
def text (number : Float) : String :=
  match Binary.kind number with
  | .nan => "NaN"
  | .infinite negative => if negative then "-inf" else "inf"
  | .finite negative _ =>
    let magnitude := String.ofList (decimalOfBits (Binary.magnitudeBits number)).chars
    if negative then "-" ++ magnitude else magnitude

end Spreadsheet.Decimal.Shortest
