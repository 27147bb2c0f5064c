import Spreadsheet.Sheet.Cell

/-! Sheets: fixed grids of cells. -/

namespace Spreadsheet

/-- Why a sheet refuses an operation. -/
inductive SheetFault where
  | invalidAddress (fault : AddressFault)
  | rowOutOfBounds (row rows : UInt32)
  | columnOutOfBounds (col cols : UInt32)
  | other (message : String)
  deriving DecidableEq

/-- The wording of a refusal. -/
def SheetFault.message : SheetFault → String
  | .invalidAddress fault => "Invalid cell address: " ++ fault.message
  | .rowOutOfBounds row rows =>
    "Row " ++ row.toNat.repr ++ " out of bounds (rows: " ++ rows.toNat.repr ++ ")"
  | .columnOutOfBounds col cols =>
    "Column " ++ col.toNat.repr ++ " out of bounds (columns: " ++ cols.toNat.repr ++ ")"
  | .other message => message

/-- A grid of cells, kept row by row. -/
structure Sheet where
  rows : UInt32
  cols : UInt32
  cells : Array Cell
  size_cells : cells.size = rows.toNat * cols.toNat

namespace Sheet

/-- The number of rows of a sheet unless another is given. -/
def defaultRows : UInt32 := 40

/-- The number of columns of a sheet unless another is given. -/
def defaultCols : UInt32 := 26

/-- A sheet of empty cells. -/
def ofSize (rows cols : UInt32) : Sheet where
  rows := rows
  cols := cols
  cells := Array.replicate (rows.toNat * cols.toNat) Cell.empty
  size_cells := by simp

/-- The sheet of empty cells with the usual size. -/
def empty : Sheet := ofSize defaultRows defaultCols

/-- The range of all cells, if there is any. -/
def bounds (sheet : Sheet) : Option Range :=
  if sheet.rows = 0 ∨ sheet.cols = 0 then none
  else some (Range.ofCorners ⟨1, 1⟩ ⟨sheet.rows, sheet.cols⟩)

/-- Whether an address names a cell of the sheet. -/
def contains (sheet : Sheet) (address : Address) : Bool :=
  1 ≤ address.row && address.row ≤ sheet.rows && 1 ≤ address.col && address.col ≤ sheet.cols

/-- A place in the grid lies before the end of the cells. -/
theorem place_lt {row col rows cols : Nat} (row_pos : 1 ≤ row) (row_le : row ≤ rows)
    (col_pos : 1 ≤ col) (col_le : col ≤ cols) :
    (row - 1) * cols + (col - 1) < rows * cols := by
  -- The row is full but for the columns after this one, and the rows after it add more.
  have := Nat.mul_le_mul_right cols row_le
  obtain ⟨row, rfl⟩ := Nat.exists_eq_add_of_le' row_pos
  rw [Nat.add_mul, Nat.one_mul] at this
  simp only [Nat.add_sub_cancel]
  omega

/-- The place of an address in the grid; a wrong row is told before a wrong column. -/
def locate (sheet : Sheet) (address : Address) : Except SheetFault (Fin sheet.cells.size) :=
  if row : 1 ≤ address.row.toNat ∧ address.row.toNat ≤ sheet.rows.toNat then
    if col : 1 ≤ address.col.toNat ∧ address.col.toNat ≤ sheet.cols.toNat then
      .ok ⟨(address.row.toNat - 1) * sheet.cols.toNat + (address.col.toNat - 1),
        sheet.size_cells ▸ place_lt row.1 row.2 col.1 col.2⟩
    else .error (.columnOutOfBounds address.col sheet.cols)
  else .error (.rowOutOfBounds address.row sheet.rows)

/-- The address that a text names, as far as a sheet is concerned. -/
def addressOf (text : String) : Except SheetFault Address :=
  (Address.parse text).mapError .invalidAddress

/-- The cell at an address. -/
def cellAt (sheet : Sheet) (address : Address) : Except SheetFault Cell := do
  let place ← sheet.locate address
  return sheet.cells[place]

/-- The cell at an address, if it is in the grid. -/
def cellAt? (sheet : Sheet) (address : Address) : Option Cell :=
  (sheet.cellAt address).toOption

/-- Changes the cell at an address. -/
def modify (sheet : Sheet) (address : Address) (change : Cell → Cell) :
    Except SheetFault Sheet := do
  let place ← sheet.locate address
  return { sheet with
    cells := sheet.cells.set place (change sheet.cells[place])
    size_cells := by simp [sheet.size_cells] }

/-- Replaces the content of the cell at an address. -/
def setContent (sheet : Sheet) (address : Address) (content : String) : Except SheetFault Sheet :=
  sheet.modify address fun cell => cell.setContent content

/-- Replaces what the cell at an address shows. -/
def setDisplay (sheet : Sheet) (address : Address) (display : String) : Except SheetFault Sheet :=
  sheet.modify address fun cell => cell.setDisplay display

/-- Empties the cell at an address. -/
def clear (sheet : Sheet) (address : Address) : Except SheetFault Sheet :=
  sheet.modify address fun _ => Cell.empty

/-- Replaces the content of the cell that a text names. -/
def setNamed (sheet : Sheet) (name : String) (content : String) : Except SheetFault Sheet := do
  let address ← addressOf name
  sheet.setContent address content

/-- The cell that a text names. -/
def cellNamed (sheet : Sheet) (name : String) : Except SheetFault Cell := do
  let address ← addressOf name
  sheet.cellAt address

/-- What the cell at an address holds. -/
def contentAt (sheet : Sheet) (address : Address) : Except SheetFault String := do
  return (← sheet.cellAt address).content

/-- What the cell at an address shows. -/
def displayAt (sheet : Sheet) (address : Address) : Except SheetFault String := do
  return (← sheet.cellAt address).display

/-- What the cell that a text names shows. -/
def displayNamed (sheet : Sheet) (name : String) : Except SheetFault String := do
  return (← sheet.cellNamed name).display

/-- The source of the formula at an address, if there is one. -/
def source? (sheet : Sheet) (address : Address) : Option String :=
  (sheet.cellAt? address).bind Cell.source?

/-- Whether there is a formula at an address. -/
def isFormula (sheet : Sheet) (address : Address) : Bool :=
  (sheet.source? address).isSome

/-- The address of a place in the grid. -/
def addressOfPlace (sheet : Sheet) (place : Nat) : Address :=
  ⟨UInt32.ofNat (place / sheet.cols.toNat + 1), UInt32.ofNat (place % sheet.cols.toNat + 1)⟩

/-- All cells with their addresses, row by row. -/
def toList (sheet : Sheet) : List (Address × Cell) :=
  sheet.cells.toList.zipIdx.map fun (cell, place) => (sheet.addressOfPlace place, cell)

/-- All formulas with their addresses, row by row. -/
def formulas (sheet : Sheet) : List (Address × String) :=
  sheet.toList.filterMap fun (address, cell) => cell.source?.map fun source => (address, source)

/-- All cells that hold or show something, with their addresses, row by row. -/
def nonEmptyCells (sheet : Sheet) : List (Address × Cell) :=
  sheet.toList.filter fun (_, cell) => !cell.isEmpty

end Sheet

end Spreadsheet
