/-! Cutting a text: blanks off its ends, which are the characters with the property White_Space, in
two where the first separator stands, or into its lines. -/

namespace Spreadsheet.Text

/-- The inclusive code point ranges of the characters with the property White_Space, in order. -/
def blankRanges : List (Nat × Nat) :=
  [(0x09, 0x0d), (0x20, 0x20), (0x85, 0x85), (0xa0, 0xa0), (0x1680, 0x1680), (0x2000, 0x200a),
    (0x2028, 0x2029), (0x202f, 0x202f), (0x205f, 0x205f), (0x3000, 0x3000)]

/-- Whether a character has the property White_Space. -/
def isBlank (char : Char) : Bool :=
  blankRanges.any fun (low, high) => low ≤ char.toNat && char.toNat ≤ high

/-- A text without the blanks it starts with. -/
def trimStart (text : List Char) : List Char :=
  text.dropWhile isBlank

/-- A text without the blanks it ends with. -/
def trimEnd (text : List Char) : List Char :=
  (text.reverse.dropWhile isBlank).reverse

/-- A text without the blanks at either end. -/
def trim (text : List Char) : List Char :=
  trimEnd (trimStart text)

/-- The text before and after the first character that `stops`, that character dropped. -/
def cutAt? (stops : Char → Bool) : List Char → Option (List Char × List Char)
  | [] => none
  | char :: rest =>
    if stops char then some ([], rest)
    else (cutAt? stops rest).map fun (before, after) => (char :: before, after)

/-- The text before and after the first two dots in a row, both dots dropped. -/
def cutAtDots? : List Char → Option (List Char × List Char)
  | [] => none
  | '.' :: '.' :: rest => some ([], rest)
  | char :: rest => (cutAtDots? rest).map fun (before, after) => (char :: before, after)

/-- The lines of a text, line feeds dropped; a text that ends with one has an empty last line. -/
def lines : List Char → List (List Char)
  | [] => [[]]
  | char :: rest =>
    if char = '\n' then [] :: lines rest
    else
      match lines rest with
      | [] => [[char]]
      | line :: others => (char :: line) :: others

end Spreadsheet.Text
