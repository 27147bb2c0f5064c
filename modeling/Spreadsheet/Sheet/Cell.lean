import Spreadsheet.Formula

/-! A cell of a sheet: what was typed into it, and what it shows. -/

namespace Spreadsheet

/-- A cell: a plain one shows its content, and one with a formula what was last computed. -/
structure Cell where
  content : String
  display : String
  deriving DecidableEq

namespace Cell

/-- The cell that holds and shows nothing. -/
def empty : Cell := ⟨"", ""⟩

/-- The source of the cell's formula, if its content is one. -/
def source? (cell : Cell) : Option String :=
  Formula.afterSigil? cell.content

/-- Whether the content is a formula. -/
def isFormula (cell : Cell) : Bool :=
  cell.source?.isSome

/-- Replaces the content; plain content shows at once, and a formula only when it is computed. -/
def setContent (cell : Cell) (content : String) : Cell :=
  if (Formula.afterSigil? content).isSome then { cell with content }
  else ⟨content, content⟩

/-- Replaces what the cell shows. -/
def setDisplay (cell : Cell) (display : String) : Cell :=
  { cell with display }

/-- A cell into which some content has been typed. -/
def ofContent (content : String) : Cell :=
  empty.setContent content

/-- Whether the cell holds and shows nothing. -/
def isEmpty (cell : Cell) : Bool :=
  cell.content.isEmpty && cell.display.isEmpty

end Cell

end Spreadsheet
