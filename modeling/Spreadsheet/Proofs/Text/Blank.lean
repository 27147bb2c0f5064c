import Mathlib.Data.List.TakeWhile
import Spreadsheet.Proofs.Text.Runs
import Spreadsheet.Text.Cut

/-! What is left of a text when the blanks at its ends are cut off. -/

namespace Spreadsheet.Text

variable {text : List Char}

/-- A run of blanks at the start is none where the first character is no blank. -/
theorem dropWhile_isBlank (visible : ∀ first ∈ text.head?, isBlank first = false) :
    text.dropWhile isBlank = text := by
  cases text with
  | nil => rfl
  | cons first rest => exact List.dropWhile_cons_of_neg (by simp [visible first rfl])

/-- Blanks behind a text are cut off with those it ends with. -/
theorem trimEnd_append {blanks : List Char} (blank : ∀ char ∈ blanks, isBlank char = true)
    (text : List Char) : trimEnd (text ++ blanks) = trimEnd text := by
  rw [trimEnd, List.reverse_append, List.dropWhile_append_of_pos fun char member =>
    blank char (List.mem_reverse.mp member)]
  rfl

/-- Nothing is cut off the end of a text whose last character is no blank. -/
theorem trimEnd_eq_self (visible : ∀ last ∈ text.getLast?, isBlank last = false) :
    trimEnd text = text := by
  rw [trimEnd, dropWhile_isBlank fun last head => visible last (List.head?_reverse ▸ head),
    List.reverse_reverse]

/-- A text ends with the blanks that are cut off its end. -/
theorem exists_eq_trimEnd_append (text : List Char) :
    ∃ blanks, text = trimEnd text ++ blanks ∧ ∀ char ∈ blanks, isBlank char = true := by
  refine ⟨(text.reverse.takeWhile isBlank).reverse, ?_, fun char member => ?_⟩
  · rw [trimEnd, ← List.reverse_append, List.takeWhile_append_dropWhile, List.reverse_reverse]
  · exact List.mem_takeWhile_imp (List.mem_reverse.mp member)

/-- The first character of a text that is no blank. -/
def firstVisible? (text : List Char) : Option Char :=
  text.find? fun char => !isBlank char

/-- A text without the blanks at its start begins with its first character that is no blank. -/
theorem head?_trimStart (text : List Char) : (trimStart text).head? = firstVisible? text :=
  (List.find?_not_eq_head?_dropWhile isBlank text).symm

/-- Blanks behind a text do not change which character is the first that is none. -/
theorem firstVisible?_append {blanks : List Char} (blank : ∀ char ∈ blanks, isBlank char = true)
    (text : List Char) : firstVisible? (text ++ blanks) = firstVisible? text := by
  have none : blanks.find? (fun char => !isBlank char) = none := by
    rw [List.find?_eq_none]
    exact fun char member => by simp [blank char member]
  rw [firstVisible?, List.find?_append, none, Option.or_none]
  rfl

/-- Cutting the blanks off the end of a text does not, either. -/
theorem firstVisible?_trimEnd (text : List Char) :
    firstVisible? (trimEnd text) = firstVisible? text := by
  obtain ⟨blanks, whole, blank⟩ := exists_eq_trimEnd_append text
  exact (firstVisible?_append blank _).symm.trans (congrArg firstVisible? whole.symm)

/-- Everything is left of a text without blanks. -/
theorem trim_of_visible (visible : ∀ char ∈ text, isBlank char = false) : trim text = text := by
  have start := dropWhile_isBlank fun first head => visible first (List.mem_of_mem_head? head)
  rw [trim, trimStart, start]
  exact trimEnd_eq_self fun last member => visible last (List.mem_of_mem_getLast? member)

/-- A digit is no blank. -/
theorem not_isBlank_of_isDigit {char : Char} (digit : char.isDigit = true) :
    isBlank char = false := by
  rw [isDigit_iff] at digit
  simp [isBlank, blankRanges]
  omega

/-- A capital is no blank. -/
theorem not_isBlank_of_isUpper {char : Char} (capital : char.isUpper = true) :
    isBlank char = false := by
  rw [isUpper_iff] at capital
  simp [isBlank, blankRanges]
  omega

end Spreadsheet.Text
