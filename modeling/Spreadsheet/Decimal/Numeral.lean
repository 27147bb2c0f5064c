import Spreadsheet.Decimal.Binary

/-! Reading a numeral: an optional sign, then digits with an optional point and an optional
exponent, or the word for infinity or for no number. -/

namespace Spreadsheet.Decimal

/-- An unsigned numeral: its digits as one number, times ten to its exponent. -/
structure Numeral where
  digits : Nat
  exponent : Int
  deriving DecidableEq

/-- An exponent stops growing here: past it a numeral of any likely length is nought or infinite. -/
def exponentLimit : Nat := 65536

/-- The exponent that some digits spell; once past the limit, further digits do not count. -/
def exponentValue (digits : List Char) : Nat :=
  digits.foldl (fun value digit =>
    if value < exponentLimit then 10 * value + (digit.toNat - '0'.toNat) else value) 0

/-- A sign at the start of a text, and the rest. -/
def takeSign : List Char → Bool × List Char
  | '-' :: rest => (true, rest)
  | '+' :: rest => (false, rest)
  | text => (false, text)

/-- Reads what follows the digits of a numeral: nothing, or an exponent. -/
def readExponent : List Char → Option Int
  | [] => some 0
  | mark :: rest =>
    if mark = 'e' ∨ mark = 'E' then
      let (negative, digits) := takeSign rest
      if digits.isEmpty || !digits.all Char.isDigit then none
      else some (if negative then -(exponentValue digits : Int) else exponentValue digits)
    else none

/-- Reads an unsigned numeral; at least one digit stands before or after the point. -/
def Numeral.read (text : List Char) : Option Numeral :=
  let whole := text.takeWhile Char.isDigit
  let (fraction, rest) :=
    match text.dropWhile Char.isDigit with
    | '.' :: rest => (rest.takeWhile Char.isDigit, rest.dropWhile Char.isDigit)
    | rest => ([], rest)
  if whole.isEmpty && fraction.isEmpty then none
  else (readExponent rest).map fun exponent =>
    ⟨Nat.ofDigitChars 10 (whole ++ fraction) 0, exponent - fraction.length⟩

/-- The bits of the magnitude nearest to a numeral. -/
def Numeral.bits (numeral : Numeral) : Nat :=
  if 0 ≤ numeral.exponent then
    Binary.nearestBits (numeral.digits * tenTo numeral.exponent.toNat) 1
  else Binary.nearestBits numeral.digits (tenTo (-numeral.exponent).toNat)

/-- Reads a number, giving the nearest double; the words are read in any mix of cases. -/
def readNumber (text : List Char) : Option Float :=
  let (negative, magnitude) := takeSign text
  match Numeral.read magnitude with
  | some numeral => some (Binary.ofMagnitude negative numeral.bits)
  | none =>
    let word := magnitude.map Char.toLower
    if word = "inf".toList ∨ word = "infinity".toList then
      some (Binary.ofMagnitude negative Binary.infinityBits)
    else if word = "nan".toList then some (Binary.ofMagnitude negative Binary.nanBits)
    else none

end Spreadsheet.Decimal
