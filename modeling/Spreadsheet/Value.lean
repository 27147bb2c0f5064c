import Spreadsheet.Formula.Fault
import Spreadsheet.Number
import Spreadsheet.Range

/-! The values a formula computes with. -/

namespace Spreadsheet

/-- A value: a range stays unexpanded and is of use only as an argument of a function. -/
inductive Value where
  | number (number : Float)
  | boolean (truth : Bool)
  | text (text : String)
  | range (range : Range)
  deriving DecidableEq

namespace Value

/-- The number, if the value is one. -/
def number? : Value → Option Float
  | .number x => some x
  | _ => none

/-- The truth value, if the value is one. -/
def boolean? : Value → Option Bool
  | .boolean truth => some truth
  | _ => none

/-- The range, if the value is one. -/
def range? : Value → Option Range
  | .range area => some area
  | _ => none

/-- The name of the value's type. -/
def typeName : Value → String
  | .number _ => "number"
  | .boolean _ => "boolean"
  | .text _ => "text"
  | .range _ => "range"

/-- The value written out. -/
def written : Value → String
  | .number x => Number.text x
  | .boolean truth => if truth then "True" else "False"
  | .text content => content
  | .range area => area.text

/-- What a sheet shows for the value; a range cannot be shown. -/
def display : Value → Except Formula.EvalFault String
  | .range _ => .error .wrongType
  | value => .ok value.written

/-- Whether two values are equal as `=` has it: numbers as numbers, and never across types. -/
def equal : Value → Value → Bool
  | .number x, .number y => x == y
  | .boolean left, .boolean right => left == right
  | .text left, .text right => left == right
  | .range left, .range right => left == right
  | _, _ => false

/-- The value of a cell's text: a number if it reads as one and holds no `f`, `d` or `e`. -/
def ofCellText (text : String) : Value :=
  if text.toList.any fun char => char == 'f' || char == 'd' || char == 'e' then .text text
  else
    match Number.parse text with
    | some x => .number x
    | none => .text text

end Value

end Spreadsheet
