import Spreadsheet.Text.Cut

/-! Where a text is cut: at its first separator, at its first two dots, or into lines at its line
feeds. -/

namespace Spreadsheet.Text

variable {text before : List Char}

section Separators

variable {stops : Char → Bool}

/-- A text without separators is not cut. -/
theorem cutAt?_eq_none (unstopped : ∀ char ∈ text, stops char = false) :
    cutAt? stops text = none := by
  induction text with
  | nil => rfl
  | cons char rest ih =>
    obtain ⟨here, later⟩ := List.forall_mem_cons.mp unstopped
    rw [cutAt?, here, ih later]
    rfl

/-- Behind a part without separators the first separator is the one to cut at. -/
theorem cutAt?_append (unstopped : ∀ char ∈ before, stops char = false) {separator : Char}
    (stop : stops separator = true) (after : List Char) :
    cutAt? stops (before ++ separator :: after) = some (before, after) := by
  induction before with
  | nil => exact if_pos stop
  | cons char rest ih =>
    obtain ⟨here, later⟩ := List.forall_mem_cons.mp unstopped
    rw [List.cons_append, cutAt?, here, ih later]
    rfl

end Separators

section Dots

/-- Two dots at the start of a text are cut off. -/
theorem cutAtDots?_dots (rest : List Char) : cutAtDots? ('.' :: '.' :: rest) = some ([], rest) := by
  rw [cutAtDots?]

/-- A character that is no dot stands before the cut. -/
theorem cutAtDots?_cons {char : Char} (other : char ≠ '.') (rest : List Char) :
    cutAtDots? (char :: rest) =
      (cutAtDots? rest).map fun (before, after) => (char :: before, after) := by
  rw [cutAtDots?]
  exact fun _ dot _ => other dot

/-- A text without dots is not cut. -/
theorem cutAtDots?_eq_none (undotted : '.' ∉ text) : cutAtDots? text = none := by
  induction text with
  | nil => rw [cutAtDots?]
  | cons char rest ih =>
    have other : char ≠ '.' := (List.ne_of_not_mem_cons undotted).symm
    rw [cutAtDots?_cons other, ih (List.not_mem_of_not_mem_cons undotted), Option.map_none]

/-- Behind a part without dots the first two dots are the ones to cut at, whatever follows them. -/
theorem cutAtDots?_append (undotted : '.' ∉ before) (after : List Char) :
    cutAtDots? (before ++ '.' :: '.' :: after) = some (before, after) := by
  induction before with
  | nil => exact cutAtDots?_dots after
  | cons char rest ih =>
    have other : char ≠ '.' := (List.ne_of_not_mem_cons undotted).symm
    rw [List.cons_append, cutAtDots?_cons other, ih (List.not_mem_of_not_mem_cons undotted),
      Option.map_some]

/-- The two parts of a text that is cut make up the text, with two dots between them. -/
theorem eq_append_of_cutAtDots? {after : List Char} (cut : cutAtDots? text = some (before, after)) :
    text = before ++ '.' :: '.' :: after := by
  -- The induction follows the cut, which goes on past every character but two dots in a row.
  induction text using cutAtDots?.induct generalizing before with
  | case1 => rw [cutAtDots?] at cut; exact nomatch cut
  | case2 rest =>
    rw [cutAtDots?_dots] at cut
    obtain ⟨rfl, rfl⟩ := Prod.mk.inj (Option.some.inj cut)
    rfl
  | case3 char rest other ih =>
    rw [cutAtDots?.eq_3 char rest other] at cut
    obtain ⟨⟨inner, behind⟩, found, same⟩ := Option.map_eq_some_iff.mp cut
    obtain ⟨rfl, rfl⟩ := Prod.mk.inj same
    rw [ih found, List.cons_append]

end Dots

section Lines

/-- A text without a line feed is one line. -/
theorem lines_eq_singleton (oneLine : '\n' ∉ text) : lines text = [text] := by
  induction text with
  | nil => rfl
  | cons char rest ih =>
    have other : char ≠ '\n' := (List.ne_of_not_mem_cons oneLine).symm
    rw [lines, if_neg other, ih (List.not_mem_of_not_mem_cons oneLine)]

/-- The first line ends at the first line feed. -/
theorem lines_append (oneLine : '\n' ∉ before) (back : List Char) :
    lines (before ++ '\n' :: back) = before :: lines back := by
  induction before with
  | nil => rfl
  | cons char rest ih =>
    have other : char ≠ '\n' := (List.ne_of_not_mem_cons oneLine).symm
    rw [List.cons_append, lines, if_neg other, ih (List.not_mem_of_not_mem_cons oneLine)]

end Lines

end Spreadsheet.Text
