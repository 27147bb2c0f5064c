/-! Decimals: powers and rounding, and texts with a point only where a digit follows it. -/

namespace Spreadsheet

/-- A non-negative decimal: its digits as one number, and how many of them follow the point. -/
structure Decimal where
  digits : Nat
  places : Nat
  deriving DecidableEq

namespace Decimal

section Scales

/-- A power of two. -/
def twoTo (exponent : Nat) : Nat := Nat.pow 2 exponent

/-- A power of ten. -/
def tenTo (exponent : Nat) : Nat := Nat.pow 10 exponent

/-- The natural number nearest to `num / den`; of two equally near ones, the even one. -/
def roundRatio (num den : Nat) : Nat :=
  let floor := num / den
  let rest := num % den
  if 2 * rest < den then floor
  else if den < 2 * rest then floor + 1
  else floor + floor % 2

end Scales

section Texts

/-- Takes the zeros off the end of a fraction of so many places. -/
def trimPlaces : Nat → Nat → Decimal
  | 0, digits => ⟨digits, 0⟩
  | places + 1, digits =>
    if digits % 10 = 0 then trimPlaces places (digits / 10) else ⟨digits, places + 1⟩

/-- The same decimal without the zeros its fraction ends with. -/
def trim (decimal : Decimal) : Decimal :=
  trimPlaces decimal.places decimal.digits

/-- The last so many digits of a number, with zeros in front where it has fewer. -/
def lastDigits : Nat → Nat → List Char
  | 0, _ => []
  | count + 1, digits => lastDigits count (digits / 10) ++ [Nat.digitChar (digits % 10)]

/-- The text of a decimal: its integer part, and after a point its places if it has any. -/
def chars (decimal : Decimal) : List Char :=
  let whole := Nat.toDigits 10 (decimal.digits / tenTo decimal.places)
  if decimal.places = 0 then whole
  else whole ++ '.' :: lastDigits decimal.places decimal.digits

end Texts

end Decimal

end Spreadsheet
