import Spreadsheet.Decimal.Basic

/-! Doubles as exact multiples of the least positive one, and the double nearest to a ratio. -/

namespace Spreadsheet.Decimal.Binary

/-- The units in one: the least positive double is one unit, and the others are whole units. -/
def unitsPerOne : Nat := twoTo 1074

/-- How many magnitudes have the same exponent: the fraction of a double has fifty-two bits. -/
def fractions : Nat := twoTo 52

/-- The worth of the sign bit. -/
def signPlace : Nat := twoTo 63

/-- The bits of infinity, which as a number are above those of every finite magnitude. -/
def infinityBits : Nat := 2047 * fractions

/-- The bits of the magnitude that stands for no number. -/
def nanBits : Nat := infinityBits + twoTo 51

/-- The units in the finite magnitude with these bits, sign left out. -/
def unitsOfBits (bits : Nat) : Nat :=
  let exponent := bits / fractions
  let fraction := bits % fractions
  -- Subnormal numbers have no hidden leading bit and share the least spacing.
  if exponent = 0 then fraction else (fraction + fractions) * twoTo (exponent - 1)

/-- The bits of the magnitude nearest to `num / den`, a half going to the even fraction. -/
def nearestBits (num den : Nat) : Nat :=
  let scaled := num * unitsPerOne
  -- The spacing leaves fifty-three bits before the point, and is never below one unit.
  let spacing := Nat.log2 (scaled / den) - 52
  let steps := roundRatio scaled (den * twoTo spacing)
  -- Counting up the steps carries from the fraction into the exponent, and at last to infinity.
  min (spacing * fractions + steps) infinityBits

/-- The double with a sign and the bits of a magnitude. -/
def ofMagnitude (negative : Bool) (bits : Nat) : Float :=
  Float.ofBits (UInt64.ofNat (if negative then bits + signPlace else bits))

/-- Whether a double carries a minus sign; zero can, too. -/
def isNegative (number : Float) : Bool :=
  signPlace ≤ number.toBits.toNat

/-- The bits of a double's magnitude, its sign left out. -/
def magnitudeBits (number : Float) : Nat :=
  number.toBits.toNat % signPlace

/-- What a double is: no number, an infinity, or a finite magnitude with a sign. -/
inductive Kind where
  | nan
  | infinite (negative : Bool)
  | finite (negative : Bool) (units : Nat)
  deriving DecidableEq

/-- Takes a double apart. -/
def kind (number : Float) : Kind :=
  let bits := magnitudeBits number
  if infinityBits < bits then .nan
  else if bits = infinityBits then .infinite (isNegative number)
  else .finite (isNegative number) (unitsOfBits bits)

end Spreadsheet.Decimal.Binary
