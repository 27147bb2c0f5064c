import Spreadsheet.Proofs.Graph.Edits
import Spreadsheet.Sheet.Recalculation

/-! The cells of a grid: where they stand, what changing one of them leaves, and which of them hold
formulas and refer to others. -/

namespace Spreadsheet

/-- Only what starts with the sigil has something after it. -/
theorem Formula.isSome_afterSigil? (text : String) :
    (afterSigil? text).isSome = true ↔ text.toList.head? = some sigil := by
  unfold afterSigil?
  -- The first character decides, if there is one.
  cases text.toList with
  | nil => simp
  | cons first rest => by_cases same : first = sigil <;> simp [same]

namespace Sheet

variable {sheet changed : Sheet} {address other : Address}

/-- The number of cells before an address, row by row. -/
def index (sheet : Sheet) (address : Address) : Nat :=
  (address.row.toNat - 1) * sheet.cols.toNat + (address.col.toNat - 1)

/-- An address is in the grid if its row and its column are. -/
theorem contains_iff : sheet.contains address = true ↔
    (1 ≤ address.row.toNat ∧ address.row.toNat ≤ sheet.rows.toNat) ∧
      (1 ≤ address.col.toNat ∧ address.col.toNat ≤ sheet.cols.toNat) := by
  -- Words are compared as the numbers that they are.
  simp only [contains, Bool.and_eq_true, decide_eq_true_eq, UInt32.le_iff_toNat_le,
    UInt32.toNat_one]
  tauto

/-- An address of the grid has its place there. -/
theorem locate_of_contains (inside : sheet.contains address = true) :
    ∃ bound, sheet.locate address = .ok ⟨sheet.index address, bound⟩ := by
  obtain ⟨row, col⟩ := contains_iff.mp inside
  have bound : sheet.index address < sheet.cells.size := by
    rw [sheet.size_cells]
    exact place_lt row.1 row.2 col.1 col.2
  refine ⟨bound, ?_⟩
  rw [locate, dif_pos row, dif_pos col]
  rfl

/-- A row outside the grid is refused, whatever the column is. -/
theorem locate_of_row (outside : address.row = 0 ∨ sheet.rows < address.row) :
    sheet.locate address = .error (.rowOutOfBounds address.row sheet.rows) := by
  rw [← UInt32.toNat_inj, UInt32.toNat_zero, UInt32.lt_iff_toNat_lt] at outside
  rw [locate, dif_neg (by omega)]

/-- A column outside the grid is refused where the row is not. -/
theorem locate_of_col (row : address.row ≠ 0 ∧ address.row ≤ sheet.rows)
    (outside : address.col = 0 ∨ sheet.cols < address.col) :
    sheet.locate address = .error (.columnOutOfBounds address.col sheet.cols) := by
  rw [Ne, ← UInt32.toNat_inj, UInt32.toNat_zero, UInt32.le_iff_toNat_le] at row
  rw [← UInt32.toNat_inj, UInt32.toNat_zero, UInt32.lt_iff_toNat_lt] at outside
  rw [locate, dif_pos (by omega), dif_neg (by omega)]

/-- An address outside the grid has no place there. -/
theorem locate_of_not_contains (outside : sheet.contains address = false) :
    ∃ fault, sheet.locate address = .error fault := by
  -- Either the row is refused or the column is, each with its own fault.
  unfold locate
  split
  · rename_i row
    split
    · rename_i col
      exact absurd (contains_iff.mpr ⟨row, col⟩) (by simp [outside])
    · exact ⟨_, rfl⟩
  · exact ⟨_, rfl⟩

/-- The cell at an address of the grid is the one at its place. -/
theorem cellAt?_of_contains (inside : sheet.contains address = true) :
    sheet.cellAt? address = sheet.cells[sheet.index address]? := by
  obtain ⟨bound, place⟩ := locate_of_contains inside
  simp only [cellAt?, cellAt, place, Bind.bind, Except.bind, Pure.pure, Except.pure,
    Except.toOption, Fin.getElem_fin]
  exact (Array.getElem?_eq_getElem bound).symm

/-- A cell that is looked up is there. -/
theorem cellAt?_eq_some_iff {cell : Cell} :
    sheet.cellAt? address = some cell ↔ sheet.cellAt address = .ok cell := by
  unfold cellAt?
  cases sheet.cellAt address <;> simp [Except.toOption]

/-- There is no cell outside the grid. -/
theorem cellAt?_of_not_contains (outside : sheet.contains address = false) :
    sheet.cellAt? address = none := by
  obtain ⟨fault, nowhere⟩ := locate_of_not_contains outside
  simp only [cellAt?, cellAt, nowhere, Bind.bind, Except.bind, Except.toOption]

/-- There is a cell exactly at the addresses of the grid. -/
theorem isSome_cellAt? : (sheet.cellAt? address).isSome = sheet.contains address := by
  cases inside : sheet.contains address with
  | false => rw [cellAt?_of_not_contains inside, Option.isSome_none]
  | true =>
    obtain ⟨bound, _⟩ := locate_of_contains inside
    rw [cellAt?_of_contains inside, Array.getElem?_eq_getElem bound, Option.isSome_some]

/-- All cells of a new grid are empty. -/
theorem cellAt?_ofSize {rows cols : UInt32} (inside : (ofSize rows cols).contains address = true) :
    (ofSize rows cols).cellAt? address = some Cell.empty := by
  obtain ⟨bound, _⟩ := locate_of_contains inside
  rw [cellAt?_of_contains inside, Array.getElem?_eq_getElem bound]
  exact congrArg some (Array.getElem_replicate ..)

/-- A formula stands in the grid. -/
theorem contains_of_source? {source : String} (formula : sheet.source? address = some source) :
    sheet.contains address = true := by
  rw [← isSome_cellAt?]
  cases cell : sheet.cellAt? address with
  | none => simp [source?, cell] at formula
  | some cell => rfl

/-- Two addresses of the grid have the same place only if they are the same. -/
theorem index_inj (inside : sheet.contains address = true)
    (alsoInside : sheet.contains other = true)
    (same : sheet.index address = sheet.index other) : address = other := by
  obtain ⟨row, col⟩ := contains_iff.mp inside
  obtain ⟨otherRow, otherCol⟩ := contains_iff.mp alsoInside
  -- A place is the full rows before it and the cells before it in its row.
  have parts : ∀ before rest, rest < sheet.cols.toNat →
      (before * sheet.cols.toNat + rest) / sheet.cols.toNat = before ∧
        (before * sheet.cols.toNat + rest) % sheet.cols.toNat = rest := by
    intro before rest less
    have positive : 0 < sheet.cols.toNat := by omega
    rw [Nat.mul_comm, Nat.mul_add_div positive, Nat.mul_add_mod, Nat.div_eq_of_lt less,
      Nat.mod_eq_of_lt less]
    exact ⟨rfl, rfl⟩
  have first := parts (address.row.toNat - 1) (address.col.toNat - 1) (by omega)
  have second := parts (other.row.toNat - 1) (other.col.toNat - 1) (by omega)
  unfold index at same
  rw [same] at first
  have rows : address.row = other.row := UInt32.toNat_inj.mp (by omega)
  have cols : address.col = other.col := UInt32.toNat_inj.mp (by omega)
  cases address
  cases other
  exact congr (congrArg Address.mk rows) cols

/-- To change a cell of the grid is to write to its place. -/
theorem modify_of_contains (inside : sheet.contains address = true) (change : Cell → Cell) :
    ∃ bound : sheet.index address < sheet.cells.size,
      sheet.modify address change = .ok { sheet with
        cells := sheet.cells.set (sheet.index address) (change sheet.cells[sheet.index address])
        size_cells := (Array.size_set bound).trans sheet.size_cells } := by
  obtain ⟨bound, place⟩ := locate_of_contains inside
  refine ⟨bound, ?_⟩
  simp only [modify, place, Bind.bind, Except.bind, Pure.pure, Except.pure, Fin.getElem_fin]

/-- A cell of the grid can be changed. -/
theorem exists_modify (inside : sheet.contains address = true) (change : Cell → Cell) :
    ∃ changed, sheet.modify address change = .ok changed := by
  obtain ⟨_, done⟩ := modify_of_contains inside change
  exact ⟨_, done⟩

/-- Only a cell of the grid can be changed. -/
theorem contains_of_modify {change : Cell → Cell}
    (done : sheet.modify address change = .ok changed) : sheet.contains address = true := by
  -- Without a place there is nothing to write to.
  by_contra outside
  obtain ⟨fault, nowhere⟩ := locate_of_not_contains (Bool.eq_false_iff.mpr outside)
  simp [modify, nowhere, Bind.bind, Except.bind] at done

/-- Where changing a cell is refused there is none. -/
theorem not_contains_of_modify {change : Cell → Cell} {fault : SheetFault}
    (refused : sheet.modify address change = .error fault) : sheet.contains address = false := by
  by_contra inside
  obtain ⟨changed, done⟩ := exists_modify (by simpa using inside) change
  exact nomatch done.symm.trans refused

/-- Changing a cell writes to its place and leaves the rows and the columns. -/
theorem set_of_modify {change : Cell → Cell} (done : sheet.modify address change = .ok changed) :
    (changed.rows = sheet.rows ∧ changed.cols = sheet.cols) ∧
      ∃ bound : sheet.index address < sheet.cells.size, changed.cells =
        sheet.cells.set (sheet.index address) (change sheet.cells[sheet.index address]) := by
  obtain ⟨bound, written⟩ := modify_of_contains (contains_of_modify done) change
  obtain rfl := Except.ok.inj (done.symm.trans written)
  exact ⟨⟨rfl, rfl⟩, bound, rfl⟩

/-- Changing a cell leaves the size of the grid. -/
theorem size_modify {change : Cell → Cell} (done : sheet.modify address change = .ok changed) :
    changed.rows = sheet.rows ∧ changed.cols = sheet.cols :=
  (set_of_modify done).1

/-- Changing a cell leaves the grid. -/
theorem contains_modify {change : Cell → Cell} (done : sheet.modify address change = .ok changed)
    (other : Address) : changed.contains other = sheet.contains other := by
  obtain ⟨rows, cols⟩ := size_modify done
  rw [contains, contains, rows, cols]

/-- Changing a cell leaves every other one. -/
theorem cellAt?_modify {change : Cell → Cell} (done : sheet.modify address change = .ok changed)
    (other : Address) : changed.cellAt? other =
      if other = address then (sheet.cellAt? other).map change else sheet.cellAt? other := by
  have inside := contains_of_modify done
  cases there : sheet.contains other with
  | false =>
    -- Outside the grid there was no cell, and there is none afterwards.
    have elsewhere : other ≠ address := by
      intro same
      simp [← same, there] at inside
    rw [if_neg elsewhere, cellAt?_of_not_contains there,
      cellAt?_of_not_contains ((contains_modify done other).trans there)]
  | true =>
    have stays := (contains_modify done other).trans there
    obtain ⟨⟨_, cols⟩, bound, written⟩ := set_of_modify done
    have place : changed.index other = sheet.index other := by rw [index, index, cols]
    rw [cellAt?_of_contains stays, cellAt?_of_contains there, place, written]
    -- Another address has another place, and only one place is written to.
    split
    · rename_i same
      subst same
      simp [bound]
    · rename_i different
      have apart : sheet.index address ≠ sheet.index other := fun same =>
        different (index_inj inside there same).symm
      rw [Array.getElem?_set_ne _ apart]

/-- The address of a place is in the grid and has that place. -/
theorem addressOfPlace_spec {place : Nat} (bound : place < sheet.cells.size) :
    sheet.contains (sheet.addressOfPlace place) = true ∧
      sheet.index (sheet.addressOfPlace place) = place := by
  -- A grid with a place in it has columns, so a place has a row and a column.
  rw [sheet.size_cells] at bound
  have columns : 0 < sheet.cols.toNat := by
    by_contra none
    simp [Nat.eq_zero_of_not_pos none] at bound
  have rowLess : place / sheet.cols.toNat < sheet.rows.toNat := Nat.div_lt_of_lt_mul <| by
    rwa [Nat.mul_comm]
  have colLess : place % sheet.cols.toNat < sheet.cols.toNat := Nat.mod_lt _ columns
  -- Neither coordinate is too large for its word.
  have row : (sheet.addressOfPlace place).row.toNat = place / sheet.cols.toNat + 1 :=
    UInt32.toNat_ofNat_of_lt' (Nat.lt_of_le_of_lt rowLess sheet.rows.toNat_lt)
  have col : (sheet.addressOfPlace place).col.toNat = place % sheet.cols.toNat + 1 :=
    UInt32.toNat_ofNat_of_lt' (Nat.lt_of_le_of_lt colLess sheet.cols.toNat_lt)
  have inside : sheet.contains (sheet.addressOfPlace place) = true := by
    rw [contains_iff, row, col]
    exact ⟨⟨Nat.succ_pos _, rowLess⟩, Nat.succ_pos _, colLess⟩
  refine ⟨inside, ?_⟩
  rw [index, row, col, Nat.add_sub_cancel, Nat.add_sub_cancel, Nat.mul_comm]
  exact Nat.div_add_mod place sheet.cols.toNat

/-- The cells of a sheet are listed with their addresses. -/
theorem mem_toList {cell : Cell} :
    (address, cell) ∈ sheet.toList ↔ sheet.cellAt? address = some cell := by
  have listed : (address, cell) ∈ sheet.toList ↔
      ∃ place, sheet.cells[place]? = some cell ∧ sheet.addressOfPlace place = address := by
    simp only [toList, List.mem_map, Prod.exists, Prod.mk.injEq, List.mem_zipIdx_iff_getElem?,
      Array.getElem?_toList]
    constructor
    · intro listed
      obtain ⟨_, place, there, named, rfl⟩ := listed
      exact ⟨place, there, named⟩
    · intro found
      obtain ⟨place, there, named⟩ := found
      exact ⟨cell, place, there, named, rfl⟩
  rw [listed]
  constructor
  · intro found
    obtain ⟨place, there, rfl⟩ := found
    obtain ⟨bound, _⟩ := Array.getElem?_eq_some_iff.mp there
    obtain ⟨inside, same⟩ := addressOfPlace_spec bound
    rw [cellAt?_of_contains inside, same]
    exact there
  · intro found
    have inside : sheet.contains address = true := by
      rw [← isSome_cellAt?, found, Option.isSome_some]
    -- The cell has a place, and the address of that place has the same one.
    have there := (cellAt?_of_contains inside).symm.trans found
    obtain ⟨bound, _⟩ := Array.getElem?_eq_some_iff.mp there
    obtain ⟨alsoInside, same⟩ := addressOfPlace_spec bound
    exact ⟨sheet.index address, there, index_inj alsoInside inside same⟩

/-- The formulas of a sheet are listed with their addresses. -/
theorem mem_formulas {source : String} :
    (address, source) ∈ sheet.formulas ↔ sheet.source? address = some source := by
  -- A formula is listed where the cell that holds it is.
  simp only [formulas, List.mem_filterMap, Prod.exists, Option.map_eq_some_iff, Prod.mk.injEq,
    mem_toList, source?, Option.bind_eq_some_iff]
  constructor
  · intro listed
    obtain ⟨_, cell, found, _, formula, rfl, rfl⟩ := listed
    exact ⟨cell, found, formula⟩
  · intro held
    obtain ⟨cell, found, formula⟩ := held
    exact ⟨address, cell, found, source, formula, rfl, rfl⟩

/-- The cells are listed at the addresses of their places, from the first to the last. -/
theorem map_fst_toList (sheet : Sheet) :
    sheet.toList.map Prod.fst = (List.range sheet.cells.size).map sheet.addressOfPlace := by
  have places := List.zipIdx_map_snd 0 sheet.cells.toList
  rw [Array.length_toList, ← List.range_eq_range'] at places
  rw [toList, List.map_map, ← places, List.map_map]
  rfl

/-- No address is listed twice among the formulas of a sheet. -/
theorem nodup_formulas (sheet : Sheet) : (sheet.formulas.map Prod.fst).Nodup := by
  -- Different places have different addresses.
  have places : (sheet.toList.map Prod.fst).Nodup := by
    rw [map_fst_toList]
    refine List.Nodup.map_on (fun place member other otherMember same => ?_) List.nodup_range
    rw [← (addressOfPlace_spec (List.mem_range.mp member)).2, same,
      (addressOfPlace_spec (List.mem_range.mp otherMember)).2]
  -- The formulas are some of the cells listed, at the same addresses.
  rw [List.Nodup, List.pairwise_map] at places ⊢
  rw [formulas, List.pairwise_filterMap]
  refine places.imp fun {cell other} different => ?_
  intro formula found otherFormula otherFound
  obtain ⟨_, _, rfl⟩ := Option.map_eq_some_iff.mp found
  obtain ⟨_, _, rfl⟩ := Option.map_eq_some_iff.mp otherFound
  exact different

/-- Entering formulas keeps a graph tidy and adds their cells to the nodes. -/
theorem foldl_insert_spec (entered : List (Address × String)) (targets : String → List Address)
    {graph : Graph} (tidy : graph.Tidy) :
    let whole := entered.foldl (fun graph (address, source) =>
      graph.insert address (targets source)) graph
    whole.Tidy ∧ ∀ cell, cell ∈ whole.nodes ↔ cell ∈ graph.nodes ∨ cell ∈ entered.map Prod.fst := by
  -- The formulas are entered one by one, and an address that is there keeps its entry.
  induction entered generalizing graph with
  | nil => exact ⟨tidy, fun cell => by simp⟩
  | cons entry rest ih =>
    obtain ⟨wholeTidy, nodes⟩ := ih (tidy.insert entry.1 (targets entry.2))
    refine ⟨wholeTidy, fun cell => (nodes cell).trans ?_⟩
    rw [Graph.nodes_insert, List.map_cons, List.mem_cons]
    split
    · rename_i known
      constructor
      · exact Or.imp_right Or.inr
      · intro either
        rcases either with old | rfl | new
        · exact .inl old
        · exact .inl known
        · exact .inr new
    · simp only [List.mem_append, List.mem_singleton, or_assoc]

/-- The graph of a sheet is tidy. -/
theorem graph_tidy : sheet.graph.Tidy :=
  (foldl_insert_spec sheet.formulas
    (fun source => (Formula.references source).filter sheet.contains) .empty).1

/-- The nodes of the graph of a sheet are the addresses of its formulas. -/
theorem mem_nodes_graph : address ∈ sheet.graph.nodes ↔ (sheet.source? address).isSome = true := by
  -- The graph starts with no cells, so its nodes are those entered.
  have nodes := (foldl_insert_spec sheet.formulas
    (fun source => (Formula.references source).filter sheet.contains) .empty).2 address
  refine nodes.trans ?_
  have none : address ∉ Graph.empty.nodes := List.not_mem_nil
  simp only [none, false_or, List.mem_map, Prod.exists, exists_and_right, exists_eq_right,
    mem_formulas, Option.isSome_iff_exists]

/-- A formula of a sheet refers to another formula of the sheet. -/
def Refers (sheet : Sheet) (cell other : Address) : Prop :=
  ∃ source, sheet.source? cell = some source ∧ other ∈ Formula.references source ∧
    sheet.isFormula other = true ∧ other ≠ cell

/-- A formula of the graph refers to what its source does within the grid. -/
theorem precedents_graph {cell : Address} {source : String}
    (formula : sheet.source? cell = some source) :
    sheet.graph.precedents cell =
      Graph.inRowOrder ((Formula.references source).filter sheet.contains) :=
  Graph.precedents_of_mem_entered
    (fun source => (Formula.references source).filter sheet.contains) Graph.empty
    sheet.nodup_formulas (mem_formulas.mpr formula)

/-- Formulas refer to each other in the graph as they do in the sheet. -/
theorem refers_graph_iff {cell other : Address} :
    sheet.graph.Refers cell other ↔ sheet.Refers cell other := by
  constructor
  · intro refers
    obtain ⟨source, formula⟩ := Option.isSome_iff_exists.mp (mem_nodes_graph.mp refers.cell_mem)
    have precedent := refers.precedent
    rw [precedents_graph formula, Graph.mem_inRowOrder, List.mem_filter] at precedent
    exact ⟨source, formula, precedent.1, mem_nodes_graph.mp refers.other_mem,
      Ne.symm refers.distinct⟩
  · intro refers
    obtain ⟨source, formula, named, isFormula, distinct⟩ := refers
    -- A formula that is referred to is in the grid.
    obtain ⟨_, otherFormula⟩ := Option.isSome_iff_exists.mp isFormula
    have precedent : other ∈ sheet.graph.precedents cell := by
      rw [precedents_graph formula, Graph.mem_inRowOrder, List.mem_filter]
      exact ⟨named, contains_of_source? otherFormula⟩
    exact ⟨mem_nodes_graph.mpr (Option.isSome_iff_exists.mpr ⟨source, formula⟩),
      mem_nodes_graph.mpr isFormula, Ne.symm distinct, precedent⟩

end Sheet

end Spreadsheet
