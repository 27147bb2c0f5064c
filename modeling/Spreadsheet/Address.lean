import Std.Data.TreeMap

/-! Cell addresses: column letters followed by a row number, both coordinates counting from one. -/

namespace Spreadsheet

/-- A cell's row and column, each counted from one; a zero is possible and names no cell. -/
structure Address where
  row : UInt32
  col : UInt32
  deriving DecidableEq

/-- What keeps a text from being an address. -/
inductive AddressFault where
  | emptyText
  | noLetters (text : String)
  | emptyLetters
  | badLetter (letter : Char)
  | columnTooLarge (letters : String)
  | noRow (text : String)
  | badRow (text : String)
  | rowBelowOne (text : String)
  | rowTooLarge (text : String)
  deriving DecidableEq

/-- The wording of an address fault. -/
def AddressFault.message : AddressFault → String
  | .emptyText => "empty address"
  | .noLetters text => "no column letters in '" ++ text ++ "'"
  | .emptyLetters => "empty column letters"
  | .badLetter letter => "invalid column letter '" ++ letter.toString ++ "'"
  | .columnTooLarge letters => "column too large: " ++ letters
  | .noRow text => "no row number in '" ++ text ++ "'"
  | .badRow text => "invalid row number in '" ++ text ++ "'"
  | .rowBelowOne text => "row number must be >= 1 in '" ++ text ++ "'"
  | .rowTooLarge text => "row number too large in '" ++ text ++ "'"

namespace Address

/-- Addresses are ordered by row, and within a row by column. -/
instance : Ord Address where
  compare := compareLex (compareOn row) (compareOn col)

/-- The order of addresses is transitive, as the orders of rows and of columns are. -/
instance : Std.TransOrd Address :=
  inferInstanceAs (Std.TransCmp (compareLex (compareOn row) (compareOn col)))

/-- Addresses that are equal in order are the same. -/
instance : Std.LawfulEqOrd Address where
  eq_of_compare {left right} same := by
    -- Both coordinates must be equal in order, and words that are so are the same.
    have ⟨rows, cols⟩ := compareLex_eq_eq.1 same
    obtain ⟨row, col⟩ := left
    obtain ⟨row', col'⟩ := right
    rw [show row = row' from Std.LawfulEqOrd.eq_of_compare rows,
      show col = col' from Std.LawfulEqOrd.eq_of_compare cols]

/-- The letters of a column: base twenty-six with the digits `A` to `Z` worth one to twenty-six. -/
def columnLetters (col : Nat) : List Char :=
  -- A digit is never zero, so one is taken off before dividing.
  if col = 0 then []
  else columnLetters ((col - 1) / 26) ++ [Char.ofNat ('A'.toNat + (col - 1) % 26)]

/-- The worth of an upper-case letter as a column digit. -/
def letterWorth (letter : Char) : Nat :=
  letter.toNat - 'A'.toNat + 1

/-- The column named by some letters; the first letter that is wrong or goes too far decides. -/
def columnOf (letters : List Char) : Except AddressFault UInt32 :=
  if letters.isEmpty then .error .emptyLetters
  else do
    let col ← letters.foldlM (fun col letter =>
      if letter.isUpper then
        let wider := col * 26 + letterWorth letter
        if wider < UInt32.size then .ok wider
        else .error (.columnTooLarge (String.ofList letters))
      else .error (.badLetter letter)) 0
    return UInt32.ofNat col

/-- The text of an address. -/
def text (address : Address) : String :=
  String.ofList (columnLetters address.col.toNat) ++ address.row.toNat.repr

/-- The row number that some characters spell; a fault is told with `text`, the whole address. -/
def rowOf (text : String) (digits : List Char) : Except AddressFault UInt32 :=
  let row := Nat.ofDigitChars 10 digits 0
  if digits.isEmpty then .error (.noRow text)
  else if !digits.all Char.isDigit then .error (.badRow text)
  -- A leading zero would not survive rendering, and there is no row zero.
  else if digits.head? = some '0' then .error (.rowBelowOne text)
  else if row < UInt32.size then .ok (UInt32.ofNat row)
  else .error (.rowTooLarge text)

/-- Reads an address: capitals, then a row number without a leading zero, then nothing. -/
def parse (text : String) : Except AddressFault Address :=
  let letters := text.toList.takeWhile Char.isUpper
  let digits := text.toList.dropWhile Char.isUpper
  if text.toList.isEmpty then .error .emptyText
  else if letters.isEmpty then .error (.noLetters text)
  else do
    -- A column that is too large is told before anything about the row.
    let col ← columnOf letters
    let row ← rowOf text digits
    return ⟨row, col⟩

end Address

end Spreadsheet
