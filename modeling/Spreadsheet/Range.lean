import Spreadsheet.Address
import Spreadsheet.Text.Cut

/-! Ranges: inclusive rectangles of cells, walked row by row. -/

namespace Spreadsheet

/-- An inclusive rectangle, kept as its top-left and its bottom-right corner. -/
structure Range where
  first : Address
  last : Address
  rows_ordered : first.row ≤ last.row
  cols_ordered : first.col ≤ last.col
  deriving DecidableEq

namespace Range

/-- The rectangle with two opposite corners, whichever they are. -/
def ofCorners (one other : Address) : Range where
  first := ⟨min one.row other.row, min one.col other.col⟩
  last := ⟨max one.row other.row, max one.col other.col⟩
  rows_ordered := by
    simp only [Min.min, Max.max]
    split <;> simp_all [UInt32.le_iff_toNat_le]; omega
  cols_ordered := by
    simp only [Min.min, Max.max]
    split <;> simp_all [UInt32.le_iff_toNat_le]; omega

/-- The rectangle of one cell. -/
def single (address : Address) : Range :=
  ⟨address, address, UInt32.le_refl _, UInt32.le_refl _⟩

/-- Reads one address, or two addresses with two dots between them. -/
def parse (text : String) : Except AddressFault Range :=
  match Text.cutAtDots? text.toList with
  | some (one, other) => do
    let one ← Address.parse (String.ofList one)
    let other ← Address.parse (String.ofList other)
    return ofCorners one other
  | none => single <$> Address.parse text

/-- The text of a range, its corners with two dots between them. -/
def text (range : Range) : String :=
  range.first.text ++ ".." ++ range.last.text

/-- Whether an address lies in the rectangle. -/
def contains (range : Range) (address : Address) : Bool :=
  range.first.row ≤ address.row && address.row ≤ range.last.row &&
    range.first.col ≤ address.col && address.col ≤ range.last.col

/-- How many rows the rectangle has. They are counted in 32 bits, where all the rows there are come
to none. -/
def rowCount (range : Range) : Nat :=
  (range.last.row - range.first.row + 1).toNat

/-- How many columns the rectangle has, counted in 32 bits like its rows. -/
def colCount (range : Range) : Nat :=
  (range.last.col - range.first.col + 1).toNat

/-- How many cells the rectangle has, as far as its rows and its columns can be counted. -/
def count (range : Range) : Nat :=
  range.rowCount * range.colCount

/-- The cell after an address of the rectangle, row by row with the column moving fastest. -/
def after (range : Range) (address : Address) : Address :=
  if address.col = range.last.col then
    -- Past the last row of all there is none to go to, so the row stays where it is.
    let row := if address.row.toNat + 1 < UInt32.size then address.row + 1 else address.row
    ⟨row, range.first.col⟩
  else ⟨address.row, address.col + 1⟩

/-- A walk through a rectangle: the cell it comes to next and how many are still to come. -/
structure Walk where
  range : Range
  next : Address
  remaining : Nat

/-- The walk through all cells of a rectangle. -/
def walk (range : Range) : Walk :=
  ⟨range, range.first, range.count⟩

/-- One step of a walk, unless it is over. -/
def Walk.step? (walk : Walk) : Option (Address × Walk) :=
  match walk.remaining with
  | 0 => none
  | remaining + 1 => some (walk.next, ⟨walk.range, walk.range.after walk.next, remaining⟩)

/-- The first so many cells of a walk, and the walk that is left. -/
def Walk.take : Nat → Walk → List Address × Walk
  | 0, walk => ([], walk)
  | steps + 1, walk =>
    match walk.step? with
    | none => ([], walk)
    | some (address, rest) =>
      let (addresses, rest) := rest.take steps
      (address :: addresses, rest)

/-- The cells of the rectangle, row by row. -/
def cells (range : Range) : List Address :=
  (range.walk.take range.count).1

end Range

end Spreadsheet
