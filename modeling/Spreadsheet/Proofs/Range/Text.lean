import Spreadsheet.Proofs.Address
import Spreadsheet.Proofs.Range.Enumeration
import Spreadsheet.Proofs.Text.Cut

/-! Texts of ranges: an address, or two of them with two dots between them; what is written for a
range is read as that range again. -/

namespace Spreadsheet

namespace Address

variable {text : String} {address : Address}

/-- A text that is read as an address is the numeral of its column and then that of its row. -/
theorem exists_numerals_of_parse (read : parse text = .ok address) :
    ∃ letters digits, text.toList = letters ++ digits ∧
      ColumnNumeral letters address.col.toNat ∧ RowNumeral digits address.row.toNat := by
  obtain ⟨column, number⟩ := parse_eq_ok_iff_parts.mp read
  exact ⟨_, _, List.takeWhile_append_dropWhile.symm, column, number⟩

/-- An address is read off the numeral of its column and then that of its row. -/
theorem parse_of_numerals {letters digits : List Char} (spelled : text.toList = letters ++ digits)
    (column : ColumnNumeral letters address.col.toNat)
    (number : RowNumeral digits address.row.toNat) : parse text = .ok address := by
  obtain ⟨before, after⟩ := takeWhile_numerals column number
  rw [parse_eq_ok_iff_parts, spelled, before, after]
  exact ⟨column, number⟩

/-- An address is written with capitals and digits. -/
theorem isUpper_or_isDigit_of_parse (read : parse text = .ok address) :
    ∀ char ∈ text.toList, char.isUpper = true ∨ char.isDigit = true := by
  obtain ⟨letters, digits, spelled, column, number⟩ := exists_numerals_of_parse read
  intro char member
  rw [spelled, List.mem_append] at member
  exact member.imp (column.capitals char) (number.numeric char)

/-- No address has a dot in it. -/
theorem not_mem_dot_of_parse (read : parse text = .ok address) : '.' ∉ text.toList := by
  intro member
  -- A dot is no capital and no digit.
  rcases isUpper_or_isDigit_of_parse read '.' member with capital | digit
  · exact nomatch capital
  · exact nomatch digit

/-- An address that has been read counts from one. -/
theorem one_le_of_parse (read : parse text = .ok address) :
    1 ≤ address.col.toNat ∧ 1 ≤ address.row.toNat := by
  obtain ⟨_, _, _, column, number⟩ := exists_numerals_of_parse read
  exact ⟨(columnNumeral_iff.mp column).1, (rowNumeral_iff.mp number).1⟩

/-- What is written for an address that counts from one is read as that address. -/
theorem parse_text (col : 1 ≤ address.col.toNat) (row : 1 ≤ address.row.toNat) :
    parse address.text = .ok address :=
  parse_of_numerals (toList_text address) (columnNumeral_iff.mpr ⟨col, rfl⟩)
    (rowNumeral_iff.mpr ⟨row, rfl⟩)

end Address

namespace Range

variable {text one other : String} {range : Range} {first last : Address}

/-- Two addresses with two dots between them are read as the rectangle between them. -/
theorem parse_dots (reads : Address.parse one = .ok first)
    (readsToo : Address.parse other = .ok last) :
    parse (one ++ ".." ++ other) = .ok (ofCorners first last) := by
  have spelled : (one ++ ".." ++ other).toList = one.toList ++ '.' :: '.' :: other.toList := by
    simp
  -- The first address has no dots, so the text is cut behind it.
  have cut := Text.cutAtDots?_append (Address.not_mem_dot_of_parse reads) other.toList
  rw [parse, spelled, cut]
  simp only [String.ofList_toList, reads, readsToo]
  rfl

/-- One address is read as the rectangle of its cell. -/
theorem parse_address (reads : Address.parse text = .ok first) :
    parse text = .ok (single first) := by
  rw [parse, Text.cutAtDots?_eq_none (Address.not_mem_dot_of_parse reads)]
  simp only [reads]
  rfl

/-- A rectangle is the one between its own corners. -/
theorem ofCorners_corners (range : Range) : ofCorners range.first range.last = range := by
  have rows := UInt32.le_iff_toNat_le.mp range.rows_ordered
  have cols := UInt32.le_iff_toNat_le.mp range.cols_ordered
  -- The first corner has the lesser row and column already, and the last one the greater.
  apply eq_of_corners <;> apply Address.eq_of_toNat <;>
    simp only [ofCorners, toNat_min, toNat_max] <;> omega

/-- What is written for a rectangle that counts from one is read as that rectangle. -/
theorem parse_text (col : 1 ≤ range.first.col.toNat) (row : 1 ≤ range.first.row.toNat) :
    parse range.text = .ok range := by
  have rows := UInt32.le_iff_toNat_le.mp range.rows_ordered
  have cols := UInt32.le_iff_toNat_le.mp range.cols_ordered
  have corners := parse_dots (Address.parse_text col row)
    (Address.parse_text (Nat.le_trans col cols) (Nat.le_trans row rows))
  rw [ofCorners_corners] at corners
  exact corners

/-- The rectangle between two cells that count from one does so, too. -/
theorem one_le_ofCorners (cols : 1 ≤ first.col.toNat ∧ 1 ≤ last.col.toNat)
    (rows : 1 ≤ first.row.toNat ∧ 1 ≤ last.row.toNat) :
    1 ≤ (ofCorners first last).first.col.toNat ∧ 1 ≤ (ofCorners first last).first.row.toNat := by
  simp only [ofCorners, toNat_min]
  omega

/-- A text is read as a range if it is one address or two of them with two dots between, and in no
other case. -/
theorem parse_iff : parse text = .ok range ↔
    (∃ address, Address.parse text = .ok address ∧ range = single address) ∨
      ∃ one other first last, text = one ++ ".." ++ other ∧ Address.parse one = .ok first ∧
        Address.parse other = .ok last ∧ range = ofCorners first last := by
  constructor
  · intro read
    unfold parse at read
    cases cut : Text.cutAtDots? text.toList with
    | none =>
      rw [cut] at read
      obtain ⟨address, found, same⟩ := exists_ok_of_map read
      exact .inl ⟨address, found, same.symm⟩
    | some parts =>
      obtain ⟨before, after⟩ := parts
      rw [cut] at read
      obtain ⟨first, foundFirst, read⟩ := exists_ok_of_bind read
      obtain ⟨last, foundLast, read⟩ := exists_ok_of_bind read
      refine .inr ⟨_, _, first, last, ?_, foundFirst, foundLast, (Except.ok.inj read).symm⟩
      -- What stands before and behind the cut is all of the text but the two dots.
      rw [← String.toList_inj, Text.eq_append_of_cutAtDots? cut]
      simp
  · rintro (⟨address, found, rfl⟩ | ⟨one, other, first, last, rfl, foundFirst, foundLast, rfl⟩)
    · exact parse_address found
    · exact parse_dots foundFirst foundLast

/-- A range that has been read counts from one. -/
theorem one_le_of_parse (read : parse text = .ok range) :
    1 ≤ range.first.col.toNat ∧ 1 ≤ range.first.row.toNat := by
  rcases parse_iff.mp read with ⟨address, found, rfl⟩ | ⟨_, _, first, last, _, one, other, rfl⟩
  · exact Address.one_le_of_parse found
  · obtain ⟨col, row⟩ := Address.one_le_of_parse one
    obtain ⟨otherCol, otherRow⟩ := Address.one_le_of_parse other
    exact one_le_ofCorners ⟨col, otherCol⟩ ⟨row, otherRow⟩

/-- A text is read as a range exactly if it is an address, and then as that one cell, or two
addresses with two dots between them, and then as the rectangle with the lesser of their rows and
columns first. Whether a range has been read or spans two cells that count from one, the text that
is written for it is read as the same range; so to read a text, to write the range and to read that
again is to read the text. -/
theorem parse_normalizes (text : String) :
    (∀ range, parse text = .ok range ↔
      (∃ address, Address.parse text = .ok address ∧ range = single address) ∨
        ∃ before after first last, text = before ++ ".." ++ after ∧
          Address.parse before = .ok first ∧ Address.parse after = .ok last ∧
          range.first = ⟨min first.row last.row, min first.col last.col⟩ ∧
          range.last = ⟨max first.row last.row, max first.col last.col⟩) ∧
      (∀ range, parse text = .ok range → parse range.text = .ok range) ∧
      (∀ one other : Address, 1 ≤ one.col → 1 ≤ one.row → 1 ≤ other.col → 1 ≤ other.row →
        parse (ofCorners one other).text = .ok (ofCorners one other)) ∧
      (parse text).bind (fun range => parse range.text) = parse text := by
  have again : ∀ range, parse text = .ok range → parse range.text = .ok range := by
    intro range read
    obtain ⟨col, row⟩ := one_le_of_parse read
    exact parse_text col row
  -- What has been read counts from one, which is all that reading it again needs.
  refine ⟨fun range => parse_iff.trans ?_, again, ?_, ?_⟩
  · -- The corners tell the rectangle.
    constructor
    · rintro (cell | ⟨before, after, first, last, split, found, foundToo, rfl⟩)
      · exact .inl cell
      · exact .inr ⟨before, after, first, last, split, found, foundToo, rfl, rfl⟩
    · rintro (cell | ⟨before, after, first, last, split, found, foundToo, least, greatest⟩)
      · exact .inl cell
      · exact .inr ⟨before, after, first, last, split, found, foundToo,
          eq_of_corners least greatest⟩
  · intro one other col row otherCol otherRow
    rw [UInt32.le_iff_toNat_le] at col row otherCol otherRow
    obtain ⟨leastCol, leastRow⟩ := one_le_ofCorners ⟨col, otherCol⟩ ⟨row, otherRow⟩
    exact parse_text leastCol leastRow
  · cases read : parse text with
    | error fault => rfl
    | ok range => exact again range read

/-- Crossed corners are read as the rectangle between them, and so is what is written for it. -/
theorem parse_normalizes_crossed :
    parse "C1..A3" = .ok (ofCorners ⟨1, 3⟩ ⟨3, 1⟩) ∧
      parse (ofCorners ⟨1, 3⟩ ⟨3, 1⟩).text = .ok (ofCorners ⟨1, 3⟩ ⟨3, 1⟩) := by
  obtain ⟨_, again, _⟩ := parse_normalizes "C1..A3"
  have read : parse "C1..A3" = .ok (ofCorners ⟨1, 3⟩ ⟨3, 1⟩) := by rfl
  exact ⟨read, again _ read⟩

end Range

end Spreadsheet
