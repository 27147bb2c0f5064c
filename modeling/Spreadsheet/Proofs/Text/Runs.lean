/-! Runs of characters at the start of a text, and the classes of characters that runs are made
of. -/

namespace Spreadsheet.Text

section Runs

variable {goesOn : Char → Bool} {run rest : List Char}

/-- A run goes as far as its characters go on, if the text after it does not. -/
theorem takeWhile_append_stop (inside : ∀ char ∈ run, goesOn char = true)
    (stops : ∀ next ∈ rest.head?, goesOn next = false) : (run ++ rest).takeWhile goesOn = run := by
  rw [List.takeWhile_append_of_pos inside]
  cases rest with
  | nil => simp
  | cons next rest => simp [stops next rfl]

/-- What is left after a run is the text after it, if that does not go on with the run. -/
theorem dropWhile_append_stop (inside : ∀ char ∈ run, goesOn char = true)
    (stops : ∀ next ∈ rest.head?, goesOn next = false) : (run ++ rest).dropWhile goesOn = rest := by
  rw [List.dropWhile_append_of_pos inside]
  cases rest with
  | nil => rfl
  | cons next rest => simp [stops next rfl]

variable {stop : Char}

/-- A run is over at a character that does not go on with it, whatever stands behind. -/
theorem takeWhile_append_cons (stops : goesOn stop = false) (front back : List Char) :
    (front ++ stop :: back).takeWhile goesOn = front.takeWhile goesOn := by
  rw [List.takeWhile_append]
  split
  · -- The run takes all in front, and nothing behind.
    rename_i whole
    rw [List.takeWhile_cons_of_neg (by simp [stops]), List.append_nil]
    exact ((List.takeWhile_sublist goesOn).eq_of_length whole).symm
  · rfl

/-- What is left after a run goes on with such a character, whatever stands behind. -/
theorem dropWhile_append_cons (stops : goesOn stop = false) (front back : List Char) :
    (front ++ stop :: back).dropWhile goesOn = front.dropWhile goesOn ++ stop :: back := by
  rw [List.dropWhile_append]
  split
  · -- The run takes all in front, and nothing behind.
    rename_i whole
    rw [List.isEmpty_iff.mp whole, List.dropWhile_cons_of_neg (by simp [stops]), List.nil_append]
  · rfl

/-- Dropping a run drops no character that does not go on with it. -/
theorem count_dropWhile (stops : goesOn stop = false) (text : List Char) :
    (text.dropWhile goesOn).count stop = text.count stop := by
  -- A character that is dropped goes on with the run, so it is not the one that is counted.
  induction text with
  | nil => rfl
  | cons first text ih =>
    cases further : goesOn first with
    | false => simp [further]
    | true =>
      have other : first ≠ stop := by
        rintro rfl
        simp [stops] at further
      simp [further, ih, other]

end Runs

section Classes

variable {char : Char}

/-- A letter is a capital or a small letter. -/
theorem isAlpha_iff : char.isAlpha = true ↔ char.isUpper = true ∨ char.isLower = true :=
  Bool.or_eq_true_iff

/-- The capitals are the characters from `A` to `Z`. -/
theorem isUpper_iff : char.isUpper = true ↔ 65 ≤ char.toNat ∧ char.toNat ≤ 90 := by
  -- Characters are compared as the words that they are.
  show decide _ = true ↔ _
  rw [decide_eq_true_iff, ge_iff_le, UInt32.le_iff_toNat_le, UInt32.le_iff_toNat_le]
  rfl

/-- The small letters are the characters from `a` to `z`. -/
theorem isLower_iff : char.isLower = true ↔ 97 ≤ char.toNat ∧ char.toNat ≤ 122 := by
  show (decide _ && decide _) = true ↔ _
  rw [Bool.and_eq_true_iff, decide_eq_true_iff, decide_eq_true_iff, ge_iff_le,
    UInt32.le_iff_toNat_le, UInt32.le_iff_toNat_le]
  rfl

/-- The digits are the characters from `0` to `9`. -/
theorem isDigit_iff : char.isDigit = true ↔ 48 ≤ char.toNat ∧ char.toNat ≤ 57 := by
  show (decide _ && decide _) = true ↔ _
  rw [Bool.and_eq_true_iff, decide_eq_true_iff, decide_eq_true_iff, ge_iff_le,
    UInt32.le_iff_toNat_le, UInt32.le_iff_toNat_le]
  rfl

/-- A letter is no digit. -/
theorem not_isDigit_of_isAlpha (letter : char.isAlpha = true) : char.isDigit = false := by
  rw [isAlpha_iff, isUpper_iff, isLower_iff] at letter
  rw [Bool.eq_false_iff, ne_eq, isDigit_iff]
  omega

/-- A digit is no capital. -/
theorem not_isUpper_of_isDigit (digit : char.isDigit = true) : char.isUpper = false := by
  rw [isDigit_iff] at digit
  rw [Bool.eq_false_iff, ne_eq, isUpper_iff]
  omega

/-- A small letter is no capital. -/
theorem not_isUpper_of_isLower (small : char.isLower = true) : char.isUpper = false := by
  rw [isLower_iff] at small
  rw [Bool.eq_false_iff, ne_eq, isUpper_iff]
  omega

end Classes

end Spreadsheet.Text
