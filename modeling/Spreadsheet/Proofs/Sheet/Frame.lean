import Spreadsheet.Proofs.Sheet.History

/-! What stays as it is: cells without formulas show what they hold whatever is done to a sheet, and
calculating changes nothing but what formulas show. -/

namespace Spreadsheet

/-- A cell holds no formula exactly if its content does not start with the sigil. -/
theorem Cell.source?_eq_none_iff {cell : Cell} :
    cell.source? = none ↔ cell.content.toList.head? ≠ some Formula.sigil := by
  rw [Ne, ← Formula.isSome_afterSigil?, Option.not_isSome_iff_eq_none]
  rfl

namespace Sheet

variable {sheet : Sheet} {address : Address}

/-- A formula outside the grid is none. -/
theorem not_isFormula_of_not_contains (outside : sheet.contains address = false) :
    sheet.isFormula address = false := by
  rw [isFormula, source?, cellAt?_of_not_contains outside]
  rfl

/-- Any cell of the grid can be computed on its own, and that keeps the sheet alike. -/
theorem evaluateCell_of_contains (inside : sheet.contains address = true) :
    ∃ text changed, sheet.evaluateCell address = .ok (text, changed) ∧ sheet.Alike changed := by
  -- A formula is computed, and another cell has been found in the grid.
  suffices done : ∃ outcome, sheet.evaluateCell address = .ok outcome by
    obtain ⟨⟨text, changed⟩, done⟩ := done
    exact ⟨text, changed, done, alike_evaluateCell done⟩
  unfold evaluateCell
  split
  · dsimp only
    split
    · exact ⟨_, rfl⟩
    · exact ⟨_, rfl⟩
  · obtain ⟨bound, place⟩ := locate_of_contains inside
    simp only [cellAt, place, Bind.bind, Except.bind, Pure.pure, Except.pure]
    exact ⟨_, rfl⟩

/-- A cell outside the grid is refused as its address is when it is looked up. -/
theorem evaluateCell_of_not_contains (outside : sheet.contains address = false) :
    ∃ fault, sheet.locate address = .error fault ∧ sheet.evaluateCell address = .error fault := by
  obtain ⟨fault, nowhere⟩ := locate_of_not_contains outside
  refine ⟨fault, nowhere, ?_⟩
  rw [evaluateCell, not_isFormula_of_not_contains outside, if_neg (by simp)]
  simp only [cellAt, nowhere, Bind.bind, Except.bind]

/-- A content outside the grid is refused before anything is computed. -/
theorem setAndCalculate_of_not_contains (outside : sheet.contains address = false)
    (content : String) : ∃ fault, sheet.locate address = .error fault ∧
      sheet.setAndCalculate address content = .error fault := by
  obtain ⟨fault, nowhere⟩ := locate_of_not_contains outside
  refine ⟨fault, nowhere, ?_⟩
  simp only [setAndCalculate, setContent, modify, nowhere, Bind.bind, Except.bind]

/-- An action that is refused leaves the sheet as it was. -/
theorem acts_of_refused {action : Action} {fault : SheetFault}
    (refused : sheet.act action = .error fault) : sheet.acts [action] = sheet := by
  rw [acts, List.foldl_cons, refused]
  rfl

/-- Whatever has been done to an empty sheet, its cells without formulas show their contents. On any
sheet, calculating keeps the grid, the contents and what cells without formulas show, be it for all
cells or for one; and a content for a cell outside the grid is refused and changes nothing. -/
theorem plain_acts (rows cols : UInt32) (actions : List Action) (sheet : Sheet) :
    (∀ address cell, ((ofSize rows cols).acts actions).cellAt? address = some cell →
        cell.content.toList.head? ≠ some Formula.sigil → cell.display = cell.content) ∧
      (∀ maxReads, sheet.Alike (sheet.calculate maxReads).1) ∧
      (∀ address, sheet.contains address = true →
        ∃ text changed, sheet.evaluateCell address = .ok (text, changed) ∧ sheet.Alike changed) ∧
      ∀ address, sheet.contains address = false → ∃ fault, sheet.locate address = .error fault ∧
        sheet.evaluateCell address = .error fault ∧
        sheet.acts [.evaluateCell address] = sheet ∧
        ∀ content, sheet.setAndCalculate address content = .error fault ∧
          sheet.acts [.setAndCalculate address content] = sheet := by
  refine ⟨fun address cell found none => ?_, sheet.alike_calculate,
    fun address => evaluateCell_of_contains, fun address outside => ?_⟩
  · -- The empty sheet is plain, and every action keeps a sheet so.
    have plain := (kept_acts (ofSize rows cols) actions).plain (plain_ofSize rows cols)
    exact plain address cell found (Cell.source?_eq_none_iff.mpr none)
  · obtain ⟨fault, nowhere, refused⟩ := evaluateCell_of_not_contains outside
    have evaluation : sheet.act (.evaluateCell address) = .error fault := by
      rw [act, refused]
      rfl
    refine ⟨fault, nowhere, refused, acts_of_refused evaluation, fun content => ?_⟩
    obtain ⟨_, same, unwritten⟩ := setAndCalculate_of_not_contains outside content
    obtain rfl := Except.error.inj (nowhere.symm.trans same)
    -- An edit is refused where the evaluation is, before anything is computed.
    have writing : sheet.act (.setAndCalculate address content) = .error fault := by
      rw [act, unwritten]
      rfl
    exact ⟨unwritten, acts_of_refused writing⟩

end Sheet

end Spreadsheet
