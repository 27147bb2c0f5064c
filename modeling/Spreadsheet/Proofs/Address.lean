import Spreadsheet.Address
import Spreadsheet.Proofs.Text.Runs

/-! Address texts: every cell is written in exactly one way, and no other text is read as a cell. -/

namespace Spreadsheet

section Outcomes

variable {ε ε' α β : Type}

/-- Two steps that succeed together succeed one after the other. -/
theorem exists_ok_of_bind {first : Except ε α} {second : α → Except ε β} {result : β}
    (succeeds : first >>= second = .ok result) :
    ∃ value, first = .ok value ∧ second value = .ok result := by
  cases first with
  | error fault => exact nomatch succeeds
  | ok value => exact ⟨value, rfl, succeeds⟩

/-- A success that has been changed was one before. -/
theorem exists_ok_of_map {outcome : Except ε α} {change : α → β} {result : β}
    (succeeds : outcome.map change = .ok result) :
    ∃ value, outcome = .ok value ∧ change value = result := by
  cases outcome with
  | error fault => exact nomatch succeeds
  | ok value => exact ⟨value, rfl, Except.ok.inj succeeds⟩

/-- Telling faults in other words makes no success of them. -/
theorem eq_ok_of_mapError {outcome : Except ε α} {reword : ε → ε'} {result : α}
    (succeeds : outcome.mapError reword = .ok result) : outcome = .ok result := by
  cases outcome with
  | error fault => exact nomatch succeeds
  | ok value => exact congrArg Except.ok (Except.ok.inj succeeds)

end Outcomes

namespace Address

section Columns

variable {letter : Char} {letters : List Char}

/-- The number that some letters stand for as digits of a column, behind those for `before`. -/
def worth (before : Nat) (letters : List Char) : Nat :=
  letters.foldl (fun col letter => col * 26 + letterWorth letter) before

/-- Reads one more letter of a column; a fault is told with `letters`, those of the whole column. -/
def readLetter (letters : List Char) (col : Nat) (letter : Char) : Except AddressFault Nat :=
  if letter.isUpper then
    let wider := col * 26 + letterWorth letter
    if wider < UInt32.size then .ok wider else .error (.columnTooLarge (String.ofList letters))
  else .error (.badLetter letter)

/-- Reading a column is to read its letters one after another, if there are any. -/
theorem columnOf_eq (letters : List Char) : columnOf letters =
    if letters.isEmpty then .error .emptyLetters
    else do return UInt32.ofNat (← letters.foldlM (readLetter letters) 0) :=
  rfl

/-- More letters never stand for less. -/
theorem le_worth (before : Nat) (letters : List Char) : before ≤ worth before letters := by
  -- Every letter multiplies what stands before it and adds to it.
  induction letters generalizing before with
  | nil => exact Nat.le_refl before
  | cons letter rest ih =>
    have later := ih (before * 26 + letterWorth letter)
    show before ≤ worth (before * 26 + letterWorth letter) rest
    omega

/-- Letters stand for more than nothing. -/
theorem worth_pos (nonempty : letters ≠ []) : 1 ≤ worth 0 letters := by
  cases letters with
  | nil => contradiction
  | cons letter rest =>
    -- The first letter is worth one at least, and the others do not take from it.
    have first := le_worth (0 * 26 + letterWorth letter) rest
    show 1 ≤ worth (0 * 26 + letterWorth letter) rest
    unfold letterWorth at first ⊢
    omega

/-- Letters are read if they are capitals and stand for a number that is not too large. -/
theorem foldlM_readLetter_eq_ok_iff (whole : List Char) {before col : Nat}
    (small : before < UInt32.size) : letters.foldlM (readLetter whole) before = .ok col ↔
      (∀ letter ∈ letters, letter.isUpper = true) ∧ worth before letters = col ∧
        col < UInt32.size := by
  -- The induction carries along that what has been read so far is not too large.
  induction letters generalizing before with
  | nil =>
    show Except.ok before = Except.ok col ↔ _ ∧ before = col ∧ _
    constructor
    · intro same
      obtain rfl := Except.ok.inj same
      exact ⟨by simp, rfl, small⟩
    · intro spelled
      rw [spelled.2.1]
  | cons letter rest ih =>
    show (readLetter whole before letter >>= fun wider => rest.foldlM (readLetter whole) wider) =
      .ok col ↔ _ ∧ worth (before * 26 + letterWorth letter) rest = col ∧ _
    rw [List.forall_mem_cons]
    by_cases capital : letter.isUpper = true
    · by_cases fits : before * 26 + letterWorth letter < UInt32.size
      · -- The letter is read, and the rest behind it.
        have read : readLetter whole before letter = .ok (before * 26 + letterWorth letter) := by
          simp only [readLetter, if_pos capital, if_pos fits]
        rw [read]
        refine (ih fits).trans ?_
        simp only [capital, true_and]
      · -- What is too large already does not get smaller with the rest.
        have refused : readLetter whole before letter =
            .error (.columnTooLarge (String.ofList whole)) := by
          simp only [readLetter, if_pos capital, if_neg fits]
        rw [refused]
        refine iff_of_false (fun equal => nomatch equal) fun spelled => ?_
        have least := le_worth (before * 26 + letterWorth letter) rest
        omega
    · have refused : readLetter whole before letter = .error (.badLetter letter) := by
        simp only [readLetter, if_neg capital]
      rw [refused]
      exact iff_of_false (fun equal => nomatch equal) fun spelled => capital spelled.1.1

/-- Letters that stand for a column: there are some, and all of them are capitals. -/
structure ColumnNumeral (letters : List Char) (col : Nat) : Prop where
  nonempty : letters ≠ []
  capitals : ∀ letter ∈ letters, letter.isUpper = true
  stands : worth 0 letters = col

/-- A column is read off letters that stand for it, and off nothing else. -/
theorem columnOf_eq_ok_iff {col : UInt32} :
    columnOf letters = .ok col ↔ ColumnNumeral letters col.toNat := by
  rw [columnOf_eq]
  cases letters with
  | nil => exact iff_of_false (fun equal => nomatch equal) fun numeral => numeral.nonempty rfl
  | cons letter rest =>
    have none : (0 : Nat) < UInt32.size := by decide
    have reads := @foldlM_readLetter_eq_ok_iff (letter :: rest) (letter :: rest) 0
    rw [if_neg (by simp)]
    constructor
    · intro read
      obtain ⟨number, folded, whole⟩ := exists_ok_of_bind read
      obtain ⟨capitals, stands, small⟩ := (reads none).mp folded
      -- The number fits into a word, so the word stands for it.
      obtain rfl := Except.ok.inj whole
      exact ⟨by simp, capitals, stands.trans (UInt32.toNat_ofNat_of_lt' small).symm⟩
    · intro numeral
      have folded := (reads none).mpr ⟨numeral.capitals, numeral.stands, col.toNat_lt⟩
      rw [folded]
      exact congrArg Except.ok UInt32.ofNat_toNat

/-- A capital is worth one to twenty-six, and is the letter that is written for its worth. -/
theorem letterWorth_of_isUpper (capital : letter.isUpper = true) :
    1 ≤ letterWorth letter ∧ letterWorth letter ≤ 26 ∧
      Char.ofNat ('A'.toNat + (letterWorth letter - 1)) = letter := by
  rw [Text.isUpper_iff] at capital
  have first : 'A'.toNat = 65 := rfl
  unfold letterWorth
  refine ⟨by omega, by omega, ?_⟩
  rw [show 'A'.toNat + (letter.toNat - 'A'.toNat + 1 - 1) = letter.toNat by omega,
    Char.ofNat_toNat]

/-- The letter that is written for a digit is a capital and is worth one more than the digit. -/
theorem letterWorth_ofNat {digit : Nat} (small : digit < 26) :
    (Char.ofNat ('A'.toNat + digit)).isUpper = true ∧
      letterWorth (Char.ofNat ('A'.toNat + digit)) = digit + 1 := by
  -- There are twenty-six of them.
  have each : ∀ digit : Fin 26, (Char.ofNat ('A'.toNat + digit)).isUpper = true ∧
      letterWorth (Char.ofNat ('A'.toNat + digit)) = digit + 1 := by decide
  exact each ⟨digit, small⟩

/-- A column with one more letter is written as the column before it and then the letter. -/
theorem columnLetters_concat (col : Nat) (capital : letter.isUpper = true) :
    columnLetters (col * 26 + letterWorth letter) = columnLetters col ++ [letter] := by
  obtain ⟨least, most, written⟩ := letterWorth_of_isUpper capital
  have quotient : (col * 26 + letterWorth letter - 1) / 26 = col := by omega
  have remainder : (col * 26 + letterWorth letter - 1) % 26 = letterWorth letter - 1 := by omega
  rw [columnLetters, if_neg (by omega), quotient, remainder, written]

/-- Nothing is written for no column. -/
theorem columnLetters_zero : columnLetters 0 = [] := by
  rw [columnLetters, if_pos rfl]

/-- The column that capitals stand for is written with these capitals. -/
theorem columnLetters_worth (capitals : ∀ letter ∈ letters, letter.isUpper = true) (before : Nat) :
    columnLetters (worth before letters) = columnLetters before ++ letters := by
  -- The letters are written behind what is written for those before them.
  induction letters generalizing before with
  | nil => exact (List.append_nil _).symm
  | cons letter rest ih =>
    obtain ⟨capital, capitals⟩ := List.forall_mem_cons.mp capitals
    show columnLetters (worth (before * 26 + letterWorth letter) rest) = _
    rw [ih capitals, columnLetters_concat before capital, List.append_assoc, List.singleton_append]

/-- A column is written with capitals that stand for it. -/
theorem columnLetters_spec (col : Nat) :
    (∀ letter ∈ columnLetters col, letter.isUpper = true) ∧ worth 0 (columnLetters col) = col := by
  -- The induction takes off the last letter, as writing does.
  induction col using columnLetters.induct with
  | case1 => exact ⟨by simp [columnLetters], by simp [columnLetters, worth]⟩
  | case2 col some ih =>
    obtain ⟨capitals, stands⟩ := ih
    obtain ⟨capital, digit⟩ := letterWorth_ofNat (Nat.mod_lt (col - 1) (by decide))
    rw [columnLetters, if_neg some]
    refine ⟨List.forall_mem_append.mpr ⟨capitals, by simpa using capital⟩, ?_⟩
    unfold worth at stands ⊢
    rw [List.foldl_append, stands]
    -- The digits before the last one make up all but the remainder.
    show (col - 1) / 26 * 26 + letterWorth _ = col
    rw [digit]
    omega

/-- A column from the first on is written with the only letters that stand for it. -/
theorem columnNumeral_iff {col : Nat} :
    ColumnNumeral letters col ↔ 1 ≤ col ∧ letters = columnLetters col := by
  constructor
  · intro numeral
    obtain ⟨nonempty, capitals, rfl⟩ := numeral
    refine ⟨worth_pos nonempty, ?_⟩
    rw [columnLetters_worth capitals, columnLetters_zero, List.nil_append]
  · intro written
    obtain ⟨least, rfl⟩ := written
    obtain ⟨capitals, stands⟩ := columnLetters_spec col
    refine ⟨fun none => ?_, capitals, stands⟩
    -- No letters stand for nothing.
    rw [none] at stands
    simp only [worth, List.foldl_nil] at stands
    omega

end Columns

section Rows

variable {digit : Char} {digits : List Char}

/-- Digits that stand for a row: there are some, and the first of them is no zero. -/
structure RowNumeral (digits : List Char) (row : Nat) : Prop where
  nonempty : digits ≠ []
  numeric : ∀ digit ∈ digits, digit.isDigit = true
  unpadded : digits.head? ≠ some '0'
  stands : Nat.ofDigitChars 10 digits 0 = row

/-- A row is read off digits that stand for it, and off nothing else. -/
theorem rowOf_eq_ok_iff (text : String) {row : UInt32} :
    rowOf text digits = .ok row ↔ RowNumeral digits row.toNat := by
  unfold rowOf
  -- Each of the four refusals is one condition that a numeral meets.
  by_cases empty : digits.isEmpty = true
  · rw [if_pos empty]
    exact iff_of_false (fun equal => nomatch equal) fun numeral =>
      numeral.nonempty (List.isEmpty_iff.mp empty)
  by_cases mixed : (!digits.all Char.isDigit) = true
  · rw [if_neg empty, if_pos mixed]
    refine iff_of_false (fun equal => nomatch equal) fun numeral => ?_
    rw [List.all_eq_true.mpr numeral.numeric] at mixed
    exact nomatch mixed
  have numeric : ∀ digit ∈ digits, digit.isDigit = true :=
    List.all_eq_true.mp (by simpa using mixed)
  by_cases padded : digits.head? = some '0'
  · rw [if_neg empty, if_neg mixed, if_pos padded]
    exact iff_of_false (fun equal => nomatch equal) fun numeral => numeral.unpadded padded
  rw [if_neg empty, if_neg mixed, if_neg padded]
  by_cases small : Nat.ofDigitChars 10 digits 0 < UInt32.size
  · rw [if_pos small]
    have fits := UInt32.toNat_ofNat_of_lt' small
    constructor
    · intro read
      obtain rfl := Except.ok.inj read
      exact ⟨by simpa using empty, numeric, padded, fits.symm⟩
    · intro numeral
      rw [numeral.stands, UInt32.ofNat_toNat]
  · rw [if_neg small]
    refine iff_of_false (fun equal => nomatch equal) fun numeral => small ?_
    rw [numeral.stands]
    exact row.toNat_lt

/-- A digit is what is written for its value. -/
theorem digitChar_toNat (numeric : digit.isDigit = true) :
    digit.toNat - 48 < 10 ∧ Nat.digitChar (digit.toNat - 48) = digit := by
  rw [Text.isDigit_iff] at numeric
  refine ⟨by omega, Char.toNat_inj.mp ?_⟩
  rw [Nat.toNat_digitChar_of_lt_ten (by omega)]
  omega

/-- Digits read behind a number other than zero are written behind it. -/
theorem toDigits_ofDigitChars (numeric : ∀ digit ∈ digits, digit.isDigit = true) {before : Nat}
    (positive : 0 < before) : Nat.toDigits 10 (Nat.ofDigitChars 10 digits before) =
      Nat.toDigits 10 before ++ digits := by
  -- One digit more makes the number larger, so it stays other than zero.
  induction digits generalizing before with
  | nil => simp [Nat.ofDigitChars_nil]
  | cons digit rest ih =>
    obtain ⟨first, others⟩ := List.forall_mem_cons.mp numeric
    obtain ⟨small, written⟩ := digitChar_toNat first
    have wider := Nat.toDigits_append_toDigits (show 1 < 10 by decide) positive small
    rw [Nat.toDigits_of_lt_base small, written] at wider
    rw [Nat.ofDigitChars_cons, ih others (by omega)]
    show Nat.toDigits 10 (10 * before + (digit.toNat - 48)) ++ rest = _
    rw [← wider, List.append_assoc, List.singleton_append]

/-- A number other than zero is written with a digit other than zero first. -/
theorem head?_toDigits_ne {number : Nat} (positive : 1 ≤ number) :
    (Nat.toDigits 10 number).head? ≠ some '0' := by
  -- The first digit is that of the number without its last digit.
  induction number using Nat.strongRecOn with
  | ind number ih =>
    by_cases small : number < 10
    · rw [Nat.toDigits_of_lt_base small]
      intro zero
      have same : (Nat.digitChar number).toNat = 48 :=
        congrArg Char.toNat (Option.some.inj zero)
      rw [Nat.toNat_digitChar_of_lt_ten small] at same
      omega
    · have first := ih (number / 10) (by omega) (by omega)
      rw [Nat.toDigits_of_base_le (by decide) (Nat.le_of_not_lt small)]
      cases before : Nat.toDigits 10 (number / 10) with
      | nil => exact absurd before Nat.toDigits_ne_nil
      | cons digit rest =>
        rw [before] at first
        exact first

/-- A row from the first on is written with the only digits that stand for it. -/
theorem rowNumeral_iff {row : Nat} :
    RowNumeral digits row ↔ 1 ≤ row ∧ digits = Nat.toDigits 10 row := by
  constructor
  · intro numeral
    obtain ⟨nonempty, numeric, unpadded, rfl⟩ := numeral
    cases digits with
    | nil => contradiction
    | cons digit rest =>
      obtain ⟨first, others⟩ := List.forall_mem_cons.mp numeric
      obtain ⟨small, written⟩ := digitChar_toNat first
      -- The first digit is no zero, so the others are written behind it.
      have positive : 0 < digit.toNat - 48 := by
        refine Nat.pos_of_ne_zero fun zero => unpadded ?_
        rw [zero] at written
        rw [← written]
        rfl
      have reads : Nat.ofDigitChars 10 (digit :: rest) 0 =
          Nat.ofDigitChars 10 rest (digit.toNat - 48) := by
        rw [Nat.ofDigitChars_cons, Nat.mul_zero, Nat.zero_add]
        rfl
      have whole := toDigits_ofDigitChars others positive
      rw [Nat.toDigits_of_lt_base small, written, List.singleton_append] at whole
      rw [reads]
      refine ⟨Nat.pos_of_ne_zero fun none => ?_, whole.symm⟩
      -- Zero is written with a zero.
      rw [none, Nat.toDigits_zero] at whole
      exact unpadded (by rw [← whole]; rfl)
  · intro written
    obtain ⟨least, rfl⟩ := written
    exact ⟨Nat.toDigits_ne_nil,
      fun digit member => Nat.isDigit_of_mem_toDigits (by decide) (by decide) member,
      head?_toDigits_ne least, Nat.ofDigitChars_ten_toDigits⟩

end Rows

section Texts

variable {text : String} {address : Address}

/-- An address is read off the capitals that a text starts with and off what comes after them. -/
theorem parse_eq_ok_iff_parts : parse text = .ok address ↔
    ColumnNumeral (text.toList.takeWhile Char.isUpper) address.col.toNat ∧
      RowNumeral (text.toList.dropWhile Char.isUpper) address.row.toNat := by
  rw [← columnOf_eq_ok_iff, ← rowOf_eq_ok_iff text]
  unfold parse
  -- A text without capitals at its start names no column, whichever fault is told.
  by_cases empty : text.toList.isEmpty = true
  · rw [if_pos empty, List.isEmpty_iff.mp empty]
    exact iff_of_false (fun equal => nomatch equal) fun parts => nomatch parts.1
  rw [if_neg empty]
  by_cases unlettered : (text.toList.takeWhile Char.isUpper).isEmpty = true
  · rw [if_pos unlettered, List.isEmpty_iff.mp unlettered]
    exact iff_of_false (fun equal => nomatch equal) fun parts => nomatch parts.1
  rw [if_neg unlettered]
  cases columnOf (text.toList.takeWhile Char.isUpper) with
  | error fault => exact iff_of_false (fun equal => nomatch equal) fun parts => nomatch parts.1
  | ok col =>
    cases rowOf text (text.toList.dropWhile Char.isUpper) with
    | error fault => exact iff_of_false (fun equal => nomatch equal) fun parts => nomatch parts.2
    | ok row =>
      obtain ⟨row', col'⟩ := address
      show Except.ok (Address.mk row col) = .ok ⟨row', col'⟩ ↔ Except.ok col = .ok col' ∧ _
      simp only [Except.ok.injEq, mk.injEq, and_comm]

/-- An address is written as the letters of its column and then the digits of its row. -/
theorem toList_text (address : Address) :
    address.text.toList = columnLetters address.col.toNat ++ Nat.toDigits 10 address.row.toNat := by
  rw [text, String.toList_append, String.toList_ofList, Nat.repr_eq_ofList_toDigits,
    String.toList_ofList]

/-- Numerals of a column and of a row in turn are cut apart where the capitals end. -/
theorem takeWhile_numerals {letters digits : List Char} {col row : Nat}
    (column : ColumnNumeral letters col) (number : RowNumeral digits row) :
    (letters ++ digits).takeWhile Char.isUpper = letters ∧
      (letters ++ digits).dropWhile Char.isUpper = digits := by
  -- No digit goes on with the capitals.
  have stops : ∀ next ∈ digits.head?, next.isUpper = false := fun next first =>
    Text.not_isUpper_of_isDigit (number.numeric next (List.mem_of_mem_head? first))
  exact ⟨Text.takeWhile_append_stop column.capitals stops,
    Text.dropWhile_append_stop column.capitals stops⟩

/-- A text is read as an address exactly if it is what is written for that address and both of its
coordinates count from one; and exactly if it is letters that stand for the column and then digits
that stand for the row, so that all other texts are refused. -/
theorem parse_eq_ok_iff (text : String) (address : Address) :
    (parse text = .ok address ↔ 1 ≤ address.col ∧ 1 ≤ address.row ∧ text = address.text) ∧
      (parse text = .ok address ↔ ∃ letters digits, text = String.ofList (letters ++ digits) ∧
        ColumnNumeral letters address.col.toNat ∧ RowNumeral digits address.row.toNat) := by
  constructor
  · have least : ∀ number : UInt32, 1 ≤ number ↔ 1 ≤ number.toNat := fun number =>
      UInt32.le_iff_toNat_le
    have parts : text.toList = text.toList.takeWhile Char.isUpper ++
        text.toList.dropWhile Char.isUpper := List.takeWhile_append_dropWhile.symm
    -- Letters and digits are the numerals of a column and of a row in only one way.
    rw [parse_eq_ok_iff_parts, least, least, ← String.toList_inj, toList_text]
    constructor
    · intro read
      obtain ⟨⟨col, letters⟩, row, digits⟩ :=
        And.imp columnNumeral_iff.mp rowNumeral_iff.mp read
      rw [← letters, ← digits]
      exact ⟨col, row, parts⟩
    · intro written
      obtain ⟨col, row, written⟩ := written
      have column := columnNumeral_iff.mpr ⟨col, rfl⟩
      have number := rowNumeral_iff.mpr ⟨row, rfl⟩
      obtain ⟨letters, digits⟩ := takeWhile_numerals column number
      rw [written, letters, digits]
      exact ⟨column, number⟩
  -- However a text is cut into two such numerals, reading cuts it in the same place.
  · rw [parse_eq_ok_iff_parts]
    constructor
    · intro parts
      refine ⟨_, _, ?_, parts⟩
      rw [List.takeWhile_append_dropWhile, String.ofList_toList]
    · intro spelled
      obtain ⟨letters, digits, rfl, column, number⟩ := spelled
      obtain ⟨before, after⟩ := takeWhile_numerals column number
      rw [String.toList_ofList, before, after]
      exact ⟨column, number⟩

/-- The last column and the last row are still read. -/
example : parse "MWLQKWU4294967295" = .ok ⟨4294967295, 4294967295⟩ := by rfl

end Texts

end Address

end Spreadsheet
