import Spreadsheet.Proofs.Formula.Requests
import Spreadsheet.Proofs.Sheet.Fixpoint

/-! Sheets that differ at most in what their formulas show; recalculating changes nothing else. -/

namespace Spreadsheet

open Formula (Depth Fault Read Reading maxNodes)

namespace Sheet

/-- Two sheets have the same grid and contents, and all cells but formulas show the same. -/
structure Alike (left right : Sheet) : Prop where
  rows : left.rows = right.rows
  cols : left.cols = right.cols
  contents : ∀ address,
    (left.cellAt? address).map Cell.content = (right.cellAt? address).map Cell.content
  plain : ∀ address, left.source? address = none → left.cellAt? address = right.cellAt? address

variable {left right sheet changed : Sheet} {address : Address}

/-- The source of a formula is told by the content of the cell. -/
theorem source?_eq_bind : sheet.source? address =
    ((sheet.cellAt? address).map Cell.content).bind Formula.afterSigil? := by
  rw [source?, Option.bind_map]
  rfl

/-- Sheets with the same contents have the same formulas. -/
theorem Alike.source? (alike : Alike left right) (address : Address) :
    left.source? address = right.source? address := by
  rw [source?_eq_bind, source?_eq_bind, alike.contents]

/-- Sheets with the same contents have formulas in the same cells. -/
theorem Alike.isFormula (alike : Alike left right) (address : Address) :
    left.isFormula address = right.isFormula address := by
  rw [Sheet.isFormula, Sheet.isFormula, alike.source?]

/-- A sheet is alike to itself. -/
theorem Alike.refl (sheet : Sheet) : Alike sheet sheet :=
  ⟨rfl, rfl, fun _ => rfl, fun _ _ => rfl⟩

/-- Being alike goes both ways. -/
theorem Alike.symm (alike : Alike left right) : Alike right left :=
  ⟨alike.rows.symm, alike.cols.symm, fun address => (alike.contents address).symm,
    fun address none => (alike.plain address ((alike.source? address).trans none)).symm⟩

/-- Being alike carries over. -/
theorem Alike.trans {middle : Sheet} (first : Alike left middle) (second : Alike middle right) :
    Alike left right :=
  ⟨first.rows.trans second.rows, first.cols.trans second.cols,
    fun address => (first.contents address).trans (second.contents address),
    fun address none => (first.plain address none).trans
      (second.plain address ((first.source? address).symm.trans none))⟩

/-- Sheets that are alike contain the same addresses. -/
theorem Alike.contains (alike : Alike left right) : left.contains = right.contains := by
  -- Rows and columns are all that decides about an address.
  funext address
  rw [Sheet.contains, Sheet.contains, alike.rows, alike.cols]

/-- The cell at a place is the one at the address of the place. -/
theorem getElem?_cells {place : Nat} (bound : place < sheet.cells.size) :
    sheet.cells[place]? = sheet.cellAt? (sheet.addressOfPlace place) := by
  -- The address of a place is in the grid, and its place is this one.
  obtain ⟨inside, same⟩ := addressOfPlace_spec bound
  rw [cellAt?_of_contains inside, same]

/-- Sheets that are alike have as many cells. -/
theorem Alike.size_cells (alike : Alike left right) : left.cells.size = right.cells.size := by
  rw [left.size_cells, right.size_cells, alike.rows, alike.cols]

/-- Sheets that are alike name the places of their grids alike. -/
theorem Alike.addressOfPlace (alike : Alike left right) (place : Nat) :
    left.addressOfPlace place = right.addressOfPlace place := by
  rw [Sheet.addressOfPlace, Sheet.addressOfPlace, alike.cols]

/-- Sheets with the same grid and the same cells are the same. -/
theorem Alike.eq_of_cellAt? (alike : Alike left right)
    (cells : ∀ address, left.cellAt? address = right.cellAt? address) : left = right := by
  -- Every cell of the grid is at the address of its place.
  have same : left.cells = right.cells := by
    refine Array.ext alike.size_cells fun place bound other => ?_
    have found := (getElem?_cells bound).trans (cells _)
    rw [alike.addressOfPlace, ← getElem?_cells other, Array.getElem?_eq_getElem bound,
      Array.getElem?_eq_getElem other] at found
    exact Option.some.inj found
  obtain ⟨rows, cols, leftCells, _⟩ := left
  obtain ⟨_, _, rightCells, _⟩ := right
  obtain rfl : rows = _ := alike.rows
  obtain rfl : cols = _ := alike.cols
  obtain rfl : leftCells = _ := same
  rfl

/-- The formulas of a sheet are told by the sources of its cells and their places. -/
theorem formulas_eq (sheet : Sheet) : sheet.formulas =
    (sheet.cells.toList.map Cell.source?).zipIdx.filterMap fun (source, place) =>
      source.map fun source => (sheet.addressOfPlace place, source) := by
  -- The sources may be taken before the places are counted.
  rw [formulas, toList, List.filterMap_map, List.zipIdx_map, List.filterMap_map]
  rfl

/-- Sheets that are alike list the same formulas. -/
theorem Alike.formulas (alike : Alike left right) : left.formulas = right.formulas := by
  -- Sources and places are the same one by one.
  have sources : left.cells.toList.map Cell.source? = right.cells.toList.map Cell.source? := by
    refine List.ext_getElem? fun place => ?_
    rw [List.getElem?_map, List.getElem?_map, Array.getElem?_toList, Array.getElem?_toList]
    -- Within the grid the cells have the same sources, and past it there are none.
    by_cases bound : place < left.cells.size
    · have told : ∀ cell : Option Cell, cell.map Cell.source? =
          (cell.map Cell.content).map Formula.afterSigil? := fun cell => by
        rw [Option.map_map]
        rfl
      have other : place < right.cells.size := alike.size_cells ▸ bound
      rw [getElem?_cells bound, getElem?_cells other, told, told, alike.addressOfPlace,
        alike.contents]
    · have other : ¬ place < right.cells.size := alike.size_cells ▸ bound
      rw [Array.getElem?_eq_none (Nat.le_of_not_lt bound),
        Array.getElem?_eq_none (Nat.le_of_not_lt other)]
  have places : left.addressOfPlace = right.addressOfPlace := funext alike.addressOfPlace
  rw [formulas_eq, formulas_eq, sources, places]

/-- Sheets that are alike have the same graph. -/
theorem Alike.graph (alike : Alike left right) : left.graph = right.graph := by
  rw [Sheet.graph, Sheet.graph, alike.formulas, alike.contains]

/-- Changing what a formula shows makes a sheet that is alike. -/
theorem alike_setDisplay {source display : String} (formula : sheet.source? address = some source)
    (done : sheet.setDisplay address display = .ok changed) : Alike sheet changed := by
  obtain ⟨rows, cols⟩ := size_modify done
  refine ⟨rows.symm, cols.symm, fun other => ?_, fun other none => ?_⟩
  · -- The content stays in the cell that is changed as in any other.
    rw [cellAt?_modify done]
    split
    · rw [Option.map_map]
      rfl
    · rfl
  · -- A cell that holds no formula is not the one that is changed.
    rw [cellAt?_modify done, if_neg]
    rintro rfl
    simp [formula] at none

end Sheet

namespace Pass

variable {maxReads : Nat} {pass : Pass} {address : Address} {source : String} {depth : Depth}

/-- Settling a formula keeps the sheet alike. -/
theorem alike_settle (formula : pass.sheet.source? address = some source) (display : String) :
    pass.sheet.Alike (pass.settle address display).sheet := by
  -- Settling changes at most what the formula shows.
  unfold settle
  cases changed : pass.sheet.setDisplay address display with
  | error fault => exact .refl _
  | ok sheet => exact Sheet.alike_setDisplay formula changed

/-- Concluding a computation of a formula keeps the sheet alike. -/
theorem alike_conclude (formula : pass.sheet.source? address = some source) (reads : Nat)
    (result : Except Fault String) :
    pass.sheet.Alike (pass.conclude address reads result).2.sheet := by
  -- A result that is given up changes nothing, and any other one is settled.
  by_cases dropped : result = .error (.eval .circular) ∧ 0 < reads
  · rw [dropped.1, conclude, if_pos ⟨rfl, dropped.2⟩]
    exact .refl _
  · rw [conclude_of_kept dropped pass address]
    exact alike_settle formula _

/-- Running a computation keeps the sheet alike if answering its requests does. -/
theorem alike_run {reading : Reading Read (Except Fault String)}
    (deeper : reading.Holds (Deeper depth) fun _ => True)
    (answers : ∀ read (pass : Pass), Deeper depth read →
      pass.sheet.Alike (pass.compute maxReads read.address read.depth).2.sheet) (pass : Pass) :
    pass.sheet.Alike (reading.run (answer maxReads) pass).2.sheet := by
  refine deeper.run_keeps (fun later : Pass => pass.sheet.Alike later.sheet) ?_ (.refl _)
  intro read later below alike
  -- A request is answered from the pass, or by a computation that goes deeper.
  cases found : later.known read.address with
  | some text =>
    rw [answer_of_known read found]
    exact alike
  | none =>
    rw [answer_of_unknown read found]
    exact alike.trans (answers read later below)

/-- Computing a cell keeps the sheet alike. -/
theorem alike_compute (maxReads : Nat) (address : Address) (depth : Depth) (pass : Pass) :
    pass.sheet.Alike (pass.compute maxReads address depth).2.sheet := by
  -- Every read is deeper, so the ceiling on expressions bounds the recursion.
  induction left : maxNodes - depth.nodes using Nat.strong_induction_on
    generalizing pass address depth with
  | _ remaining ih =>
    cases formula : pass.sheet.source? address with
    | none =>
      rw [compute_eq, formula]
      exact .refl _
    | some source =>
      rw [compute_of_source formula]
      have ran : pass.sheet.Alike _ := alike_run (attempt_deeper maxReads address source depth)
        (fun read pass below => ih (maxNodes - read.depth.nodes)
          (by have := below.1; have := below.2; omega) read.address read.depth pass rfl) pass
      exact ran.trans (alike_conclude ((ran.source? address).symm.trans formula) _ _)

/-- Computing what a formula comes to keeps the sheet alike. -/
theorem alike_attempt (maxReads : Nat) (address : Address) (source : String) (depth : Depth)
    (pass : Pass) : pass.sheet.Alike
      ((attempt maxReads address source depth).run (answer maxReads) pass).2.sheet :=
  alike_run (attempt_deeper maxReads address source depth)
    (fun read pass _ => alike_compute maxReads read.address read.depth pass) pass

/-- A formula that is computed within no other one ends with a text, and shows it. -/
theorem exists_shown_of_compute (formula : pass.sheet.source? address = some source)
    (maxReads nodes : Nat) :
    ∃ text, (pass.compute maxReads address ⟨0, nodes⟩).1 = .ok text ∧
      ((pass.compute maxReads address ⟨0, nodes⟩).2.sheet.cellAt? address).map Cell.display =
        some text := by
  -- The cell is still there when what comes of its formula is stored.
  have ran := alike_attempt maxReads address source ⟨0, nodes⟩ pass
  have inside := Sheet.contains_of_source? ((ran.source? address).symm.trans formula)
  rw [← Sheet.isSome_cellAt?] at inside
  obtain ⟨cell, found⟩ := Option.isSome_iff_exists.mp inside
  rw [compute_of_source formula, conclude_of_kept fun dropped => Nat.lt_irrefl 0 dropped.2]
  refine ⟨_, rfl, ?_⟩
  dsimp only
  rw [cellAt?_settle, if_pos rfl, found]
  rfl

/-- Marking a formula as circular keeps the sheet alike. -/
theorem alike_settleCircular (formula : pass.sheet.source? address = some source) :
    pass.sheet.Alike (pass.settleCircular address).sheet :=
  alike_settle formula _

/-- Marking some formulas as circular keeps the sheet alike. -/
theorem alike_settleCirculars {cells : List Address} {pass : Pass}
    (formulas : ∀ address ∈ cells, (pass.sheet.source? address).isSome = true) :
    pass.sheet.Alike (cells.foldl settleCircular pass).sheet := by
  -- A formula is still one when those before it are marked.
  induction cells generalizing pass with
  | nil => exact .refl _
  | cons first rest ih =>
    obtain ⟨firstFormula, others⟩ := List.forall_mem_cons.mp formulas
    obtain ⟨source, formula⟩ := Option.isSome_iff_exists.mp firstFormula
    have marked := alike_settleCircular formula
    refine marked.trans (ih fun address member => ?_)
    rw [← marked.source? address]
    exact others address member

/-- Visiting a cell keeps the sheet alike. -/
theorem alike_visit (maxReads : Nat) (pass : Pass) (address : Address) :
    pass.sheet.Alike (pass.visit maxReads address).sheet := by
  -- A cell that is settled is passed over.
  unfold visit
  split
  · exact .refl _
  · exact alike_compute maxReads address ⟨0, 0⟩ pass

/-- Visiting some cells in turn keeps the sheet alike. -/
theorem alike_visits (maxReads : Nat) (order : List Address) (pass : Pass) :
    pass.sheet.Alike (order.foldl (visit maxReads) pass).sheet := by
  induction order generalizing pass with
  | nil => exact .refl _
  | cons first rest ih => exact (alike_visit maxReads pass first).trans (ih _)

end Pass

end Spreadsheet
