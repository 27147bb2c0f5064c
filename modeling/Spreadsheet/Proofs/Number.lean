import Spreadsheet.Proofs.Decimal.Double
import Spreadsheet.Proofs.Decimal.Written
import Spreadsheet.Proofs.Text.Blank
import Spreadsheet.Value

/-! A number that is shown is read as one that is shown alike. -/

namespace Spreadsheet.Number

open Decimal (roundRatio tenTo tenTo_pos trimPlaces twoTo)
open Decimal.Binary

variable {bits units : Nat} {number : Float}

section Magnitudes

/-- How many steps of the last place shown come nearest to a magnitude. -/
def stepsShown (units : Nat) : Nat :=
  roundRatio (units * tenTo places) unitsPerOne

/-- What is shown of a magnitude are these steps, without the zeros at the end. -/
theorem rounded_eq (units : Nat) : rounded units = trimPlaces places (stepsShown units) := by
  simp only [rounded, Decimal.trim, stepsShown]

/-- A magnitude is read back from its steps as the nearest one to them. -/
theorem nearestBits_rounded (units : Nat) :
    nearestBits (rounded units).digits (tenTo (rounded units).places) =
      nearestBits (stepsShown units) (tenTo places) := by
  -- The zeros that have been taken off only scale the ratio.
  obtain ⟨dropped, fewer, same⟩ := Decimal.exists_dropped places (stepsShown units)
  have scale : tenTo places =
      tenTo (trimPlaces places (stepsShown units)).places * tenTo dropped := by
    rw [← Decimal.tenTo_add, ← fewer]
  rw [rounded_eq, scale, ← nearestBits_mul_mul (tenTo_pos _) (tenTo_pos dropped), ← same]

/-- The magnitude that is read back from the steps of a finite one is finite, and as many steps are
shown of it: it is no further away from them than the one that they are shown for. -/
theorem stepsShown_nearestBits (finite : bits < infinityBits) :
    nearestBits (stepsShown (unitsOfBits bits)) (tenTo places) < infinityBits ∧
      stepsShown (unitsOfBits (nearestBits (stepsShown (unitsOfBits bits)) (tenTo places))) =
        stepsShown (unitsOfBits bits) := by
  generalize shown : stepsShown (unitsOfBits bits) = steps
  have half := Decimal.dist_roundRatio_le (unitsOfBits bits * tenTo places) unitsPerOne_pos
  change 2 * Nat.dist _ (stepsShown (unitsOfBits bits) * _) ≤ _ at half
  rw [shown] at half
  -- Half a step of the last place is less than the greatest spacing.
  have coarse : unitsPerOne < twoTo 2045 * tenTo places :=
    calc unitsPerOne
      _ < twoTo 2045 := Decimal.twoTo_lt_twoTo (by decide)
      _ ≤ twoTo 2045 * tenTo places := Nat.le_mul_of_pos_right _ (tenTo_pos places)
  have near : 2 * Nat.dist (steps * unitsPerOne) (unitsOfBits bits * tenTo places) <
      twoTo 2045 * tenTo places := by
    rw [Nat.dist_comm]
    exact Nat.lt_of_le_of_lt half coarse
  have inside := freeBits_lt_infinityBits (tenTo_pos places) finite near
  have same : nearestBits steps (tenTo places) = freeBits steps (tenTo places) := by
    rw [nearestBits_eq, Nat.min_eq_left inside.le]
  refine ⟨same ▸ inside, ?_⟩
  have closer := freeBits_nearest steps (tenTo_pos places) bits
  rw [Nat.dist_comm, Nat.dist_comm (steps * unitsPerOne) (unitsOfBits bits * _), ← shown] at closer
  rw [same, ← shown]
  exact Decimal.roundRatio_eq_of_dist_le unitsPerOne_pos closer

/-- What is shown of the magnitude that is read back from what is shown of a finite one. -/
theorem rounded_nearestBits (finite : bits < infinityBits) :
    let shown := rounded (unitsOfBits bits)
    nearestBits shown.digits (tenTo shown.places) < infinityBits ∧
      rounded (unitsOfBits (nearestBits shown.digits (tenTo shown.places))) = shown := by
  obtain ⟨inside, same⟩ := stepsShown_nearestBits finite
  dsimp only
  rw [nearestBits_rounded]
  exact ⟨inside, by rw [rounded_eq, same, rounded_eq]⟩

end Magnitudes

section Texts

/-- The characters that a magnitude is shown with. -/
def charsOf (negative : Bool) (magnitude : Decimal) : List Char :=
  if negative && magnitude.digits != 0 then '-' :: magnitude.chars else magnitude.chars

/-- The text of a finite number. -/
theorem text_of_finite {negative : Bool} (finite : kind number = .finite negative units) :
    text number = String.ofList (charsOf negative (rounded units)) := by
  rw [text, finite]
  rfl

/-- A shown number is made of digits, a point and a sign. -/
theorem of_mem_charsOf {negative : Bool} {magnitude : Decimal} {char : Char}
    (member : char ∈ charsOf negative magnitude) :
    char.isDigit = true ∨ char = '.' ∨ char = '-' := by
  have inside : char ∈ magnitude.chars → char.isDigit = true ∨ char = '.' ∨ char = '-' :=
    fun member => (Decimal.isDigit_of_mem_chars member).imp_right .inl
  unfold charsOf at member
  split at member
  · rcases List.mem_cons.mp member with sign | later
    · exact .inr (.inr sign)
    · exact inside later
  · exact inside member

/-- The characters that numbers are shown with are no blanks, and not the letters of exponents. -/
theorem plain_of_mem_charsOf {negative : Bool} {magnitude : Decimal} {char : Char}
    (member : char ∈ charsOf negative magnitude) :
    Text.isBlank char = false ∧ (char == 'f' || char == 'd' || char == 'e') = false := by
  rcases of_mem_charsOf member with digit | rfl | rfl
  · have other : ∀ letter : Char, letter.isDigit = false → (char == letter) = false :=
      fun letter noDigit => beq_false_of_ne fun same => by simp [same ▸ digit] at noDigit
    exact ⟨Text.not_isBlank_of_isDigit digit, by
      rw [other 'f' rfl, other 'd' rfl, other 'e' rfl]; rfl⟩
  · decide
  · decide

/-- The text of a finite number is read as the nearest number to what is shown; one that is shown as
nought is read without a sign. -/
theorem ofCellText_charsOf (negative : Bool) (magnitude : Decimal) :
    Value.ofCellText (String.ofList (charsOf negative magnitude)) =
      .number (ofMagnitude (negative && magnitude.digits != 0)
        (nearestBits magnitude.digits (tenTo magnitude.places))) := by
  -- Digits, a point and a sign are none of the letters that make a text of what looks like a
  -- number.
  have plain : ((String.ofList (charsOf negative magnitude)).toList.any fun char =>
      char == 'f' || char == 'd' || char == 'e') = false := by
    rw [String.toList_ofList, List.any_eq_false]
    exact fun char member => by simp [(plain_of_mem_charsOf member).2]
  have read : parse (String.ofList (charsOf negative magnitude)) =
      some (ofMagnitude (negative && magnitude.digits != 0)
        (nearestBits magnitude.digits (tenTo magnitude.places))) := by
    rw [parse, String.toList_ofList,
      Text.trim_of_visible fun char member => (plain_of_mem_charsOf member).1]
    exact Decimal.readNumber_chars _ _
  rw [Value.ofCellText, plain, read]
  rfl

/-- The text for no number is read as no number. -/
theorem ofCellText_nan : Value.ofCellText "NaN" = .number (ofMagnitude false nanBits) := by
  rfl

/-- A shown number is read as a number that is shown alike, unless it is infinite. -/
theorem exists_ofCellText_text (finite : number.isInf = false) :
    ∃ x, Value.ofCellText (text number) = .number x ∧ text x = text number := by
  have apart : magnitudeBits number ≠ infinityBits := fun same => by
    simp [isInf_iff.mpr same] at finite
  rcases Nat.lt_or_gt_of_ne apart with inside | beyond
  · -- The number that is read has the sign that is shown, and a magnitude shown alike.
    obtain ⟨insideToo, same⟩ := rounded_nearestBits inside
    have shown := text_of_finite (kind_of_lt inside)
    generalize rounded (unitsOfBits (magnitudeBits number)) = magnitude at *
    have back := kind_ofMagnitude insideToo (isNegative number && magnitude.digits != 0)
    refine ⟨_, shown ▸ ofCellText_charsOf _ magnitude, ?_⟩
    rw [shown, text_of_finite back, same]
    simp [charsOf]
  -- Beyond infinity there is only what is no number, and that is read as itself.
  · have shown : text number = "NaN" := by rw [text, kind_of_gt beyond]
    refine ⟨_, shown ▸ ofCellText_nan, ?_⟩
    rw [shown, text, kind_nanBits]

end Texts

end Spreadsheet.Number
