import Mathlib.Data.List.Chain
import Spreadsheet.Proofs.Formula.Mentions
import Spreadsheet.Proofs.Formula.Room
import Spreadsheet.Proofs.Sheet.Grid

/-! Which formulas of a sheet depend on one another, and where the ceilings have room for all that a
formula leads to. -/

namespace Spreadsheet

open Formula (Depth Read maxNodes)

namespace Sheet

variable {sheet : Sheet} {maxReads : Nat} {cell other : Address} {depth : Depth}

/-- A formula has another formula of the sheet in a range of its expression. -/
def Spans (sheet : Sheet) (cell other : Address) : Prop :=
  ∃ source expr range, sheet.source? cell = some source ∧ Formula.parseSource source = .ok expr ∧
    expr.HasRange range ∧ range.contains other = true ∧ sheet.isFormula other = true

/-- A formula depends on another one: it refers to it, or has it in a range. -/
def Depends (sheet : Sheet) (cell other : Address) : Prop :=
  sheet.Refers cell other ∨ sheet.Spans cell other

/-- The height of the formula in a cell; other cells have none. -/
def heightAt (sheet : Sheet) (cell : Address) : Nat :=
  (sheet.source? cell).elim 0 Formula.sourceHeight

/-- A formula is as high as its source. -/
theorem heightAt_of_source {source : String} (formula : sheet.source? cell = some source) :
    sheet.heightAt cell = Formula.sourceHeight source := by
  rw [heightAt, formula]
  rfl

/-- The heights of the formulas on a path together. -/
def heights (sheet : Sheet) : List Address → Nat
  | [] => 0
  | cell :: rest => sheet.heightAt cell + sheet.heights rest

/-- No formula depends on itself through others, and on no path of formulas that depend each on the
next one are more formulas than may be read, or higher ones than may be in progress. -/
structure WithinCeilings (sheet : Sheet) (maxReads : Nat) : Prop where
  acyclic : ∀ cell, ¬ Relation.TransGen sheet.Depends cell cell
  length_le : ∀ path, List.IsChain sheet.Depends path → path.length ≤ maxReads
  heights_le : ∀ path, List.IsChain sheet.Depends path → sheet.heights path ≤ maxNodes

/-- From a depth there is room under the ceilings for a cell and for every path that it leads to. -/
def Room (sheet : Sheet) (maxReads : Nat) (cell : Address) (depth : Depth) : Prop :=
  ∀ path, List.IsChain sheet.Depends (cell :: path) →
    depth.reads + path.length < maxReads ∧
      depth.nodes + sheet.heights (cell :: path) ≤ maxNodes

/-- At the top there is room for every cell. -/
theorem WithinCeilings.room (within : sheet.WithinCeilings maxReads) (cell : Address) :
    sheet.Room maxReads cell ⟨0, 0⟩ := by
  -- A path that leads on from the cell is one cell shorter than the path that starts with it.
  intro path chain
  have length := within.length_le _ chain
  have heights := within.heights_le _ chain
  rw [List.length_cons] at length
  exact ⟨by dsimp only; omega, by dsimp only; omega⟩

/-- Where there is room for a cell there is for its own formula. -/
theorem Room.here (room : sheet.Room maxReads cell depth) :
    depth.reads < maxReads ∧ depth.nodes + sheet.heightAt cell ≤ maxNodes := by
  -- The cell alone is a path.
  obtain ⟨reads, nodes⟩ := room [] (List.isChain_singleton cell)
  exact ⟨by simpa using reads, by simpa [heights] using nodes⟩

/-- What the formula in a cell may read from a depth: formulas that it depends on, and other cells,
each one read further and no deeper than the formula is high. -/
structure MayRead (sheet : Sheet) (cell : Address) (depth : Depth) (read : Read) : Prop where
  depends : sheet.isFormula read.address = true → sheet.Depends cell read.address
  reads : read.depth.reads = depth.reads + 1
  nodes : read.depth.nodes ≤ depth.nodes + sheet.heightAt cell

/-- Where there is room for a formula, there is room for the formulas that it may read. -/
theorem Room.there {read : Read} (room : sheet.Room maxReads cell depth)
    (may : sheet.MayRead cell depth read) (isFormula : sheet.isFormula read.address = true) :
    sheet.Room maxReads read.address read.depth := by
  obtain ⟨depends, reads, nodes⟩ := may
  intro path chain
  -- A path from the cell that is read is the rest of one from the formula.
  obtain ⟨length, high⟩ := room (read.address :: path)
    (List.isChain_cons_cons.mpr ⟨depends isFormula, chain⟩)
  simp only [heights, List.length_cons] at length high ⊢
  omega

section Ranks

variable {rank : Address → Nat} {bound high : Nat}

/-- Where each formula has a lower rank than those that it depends on, no path is longer than there
are ranks from its first formula on. -/
theorem length_le_of_rank (onward : ∀ cell other, sheet.Depends cell other →
    rank cell < rank other ∧ rank other ≤ bound) {cell : Address} {path : List Address}
    (chain : List.IsChain sheet.Depends (cell :: path)) : path.length ≤ bound - rank cell := by
  -- Every step of the path uses up one rank at least.
  induction path generalizing cell with
  | nil => exact Nat.zero_le _
  | cons next path ih =>
    obtain ⟨depends, chain⟩ := List.isChain_cons_cons.mp chain
    have later := ih chain
    have step := onward cell next depends
    rw [List.length_cons]
    omega

/-- Formulas of a bounded height are together on a path no higher than the path is long. -/
theorem heights_le_mul (low : ∀ cell, sheet.heightAt cell ≤ high) (path : List Address) :
    sheet.heights path ≤ path.length * high := by
  induction path with
  | nil => exact Nat.zero_le _
  | cons cell path ih =>
    have here := low cell
    rw [heights, List.length_cons, Nat.succ_mul]
    omega

/-- The ceilings have room for all paths if they have room for one formula of the greatest height at
each rank. -/
theorem withinCeilings_of_rank (onward : ∀ cell other, sheet.Depends cell other →
      rank cell < rank other ∧ rank other ≤ bound)
    (low : ∀ cell, sheet.heightAt cell ≤ high) (reads : bound < maxReads)
    (nodes : (bound + 1) * high ≤ maxNodes) : sheet.WithinCeilings maxReads := by
  -- Ranks grow along a path and are bounded, so a path has no more cells than there are ranks.
  have length : ∀ path, List.IsChain sheet.Depends path → path.length ≤ bound + 1 := by
    intro path chain
    cases path with
    | nil => exact Nat.zero_le _
    | cons cell path =>
      have later := length_le_of_rank onward chain
      rw [List.length_cons]
      omega
  refine ⟨fun cell path => ?_, fun path chain => ?_, fun path chain => ?_⟩
  · -- Ranks grow along a path, so none comes back to where it starts.
    have further : Relation.TransGen (· < ·) (rank cell) (rank cell) :=
      Relation.TransGen.lift rank (fun one other depends => (onward one other depends).1) _ _ path
    rw [Relation.transGen_eq_self] at further
    exact Nat.lt_irrefl _ further
  · exact Nat.le_trans (length path chain) reads
  · exact Nat.le_trans (heights_le_mul low path)
      (Nat.le_trans (Nat.mul_le_mul_right high (length path chain)) nodes)

end Ranks

end Sheet

end Spreadsheet
