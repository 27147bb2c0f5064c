import Spreadsheet.Decimal.Basic
import Spreadsheet.Decimal.Numeral
import Spreadsheet.Text.Cut

/-! Numbers as a sheet shows and reads them: at most six places, blanks around a number ignored. -/

namespace Spreadsheet.Number

/-- The most places a shown number has. -/
def places : Nat := 6

/-- A magnitude rounded to the places shown, a half going to the even neighbour. -/
def rounded (units : Nat) : Decimal :=
  let steps := Decimal.roundRatio (units * Decimal.tenTo places) Decimal.Binary.unitsPerOne
  Decimal.trim ⟨steps, places⟩

/-- The text a sheet shows for a number; a number shown as zero has no sign. -/
def text (number : Float) : String :=
  match Decimal.Binary.kind number with
  | .nan => "NaN"
  | .infinite negative => if negative then "-Infinity" else "Infinity"
  | .finite negative units =>
    let magnitude := rounded units
    let chars := magnitude.chars
    String.ofList (if negative && magnitude.digits != 0 then '-' :: chars else chars)

/-- Reads a cell's text as a number, blanks at both ends ignored. -/
def parse (text : String) : Option Float :=
  Decimal.readNumber (Text.trim text.toList)

end Spreadsheet.Number
