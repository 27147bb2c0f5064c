import Spreadsheet.Proofs.Address
import Spreadsheet.Proofs.Sheet.Listing

/-! A sheet is a map from the addresses of its grid to cells: a write changes the cell at one
address, however that is looked at, and a write that is refused changes nothing. -/

namespace Spreadsheet

namespace Cell

/-- A cell holds the content that has been typed into it. -/
theorem content_setContent (cell : Cell) (text : String) :
    (cell.setContent text).content = text := by
  unfold setContent
  split <;> rfl

/-- A cell shows the content that has been typed into it, but not that of a formula. -/
theorem display_setContent (cell : Cell) (text : String) :
    (cell.setContent text).display =
      if text.toList.head? = some Formula.sigil then cell.display else text := by
  simp only [setContent, Formula.isSome_afterSigil?]
  split <;> rfl

/-- A cell has a formula once one has been typed into it. -/
theorem isFormula_setContent (cell : Cell) (text : String) :
    (cell.setContent text).isFormula = decide (text.toList.head? = some Formula.sigil) := by
  rw [Bool.eq_iff_iff, decide_eq_true_iff, ← Formula.isSome_afterSigil?, isFormula, source?,
    content_setContent]

end Cell

namespace Sheet

variable {sheet changed : Sheet} {address : Address} {cell : Cell} {fault : SheetFault}

section Looking

/-- Every way of looking at an address tells the same cell. -/
structure Shows (sheet : Sheet) (address : Address) (cell : Cell) : Prop where
  cellAt : sheet.cellAt address = .ok cell
  found : sheet.cellAt? address = some cell
  content : sheet.contentAt address = .ok cell.content
  display : sheet.displayAt address = .ok cell.display
  source : sheet.source? address = cell.source?
  formula : sheet.isFormula address = cell.isFormula
  named : ∀ name, Address.parse name = .ok address →
    sheet.cellNamed name = .ok cell ∧ sheet.displayNamed name = .ok cell.display
  listed : ∀ other, (address, other) ∈ sheet.toList ↔ other = cell
  formulas : ∀ source, (address, source) ∈ sheet.formulas ↔ cell.source? = some source
  nonEmpty : ∀ other, (address, other) ∈ sheet.nonEmptyCells ↔ other = cell ∧ cell.isEmpty = false

/-- An address is no different from a text that names it. -/
theorem addressOf_of_parse {name : String} (parsed : Address.parse name = .ok address) :
    addressOf name = .ok address := by
  rw [addressOf, parsed]
  rfl

/-- The cell at an address is told in every way of looking there. -/
theorem shows_of_cellAt? (found : sheet.cellAt? address = some cell) :
    sheet.Shows address cell := by
  have there := cellAt?_eq_some_iff.mp found
  have source : sheet.source? address = cell.source? := by
    rw [source?, found, Option.bind_some]
  have listed : ∀ other, (address, other) ∈ sheet.toList ↔ other = cell := fun other => by
    rw [mem_toList, found, Option.some.injEq, eq_comm]
  -- Whatever way one looks, it is the cell found at the address that is told.
  refine ⟨there, found, ?_, ?_, source, congrArg Option.isSome source, fun name parsed => ?_,
    listed, fun text => ?_, fun other => ?_⟩
  · rw [contentAt, there]
    rfl
  · rw [displayAt, there]
    rfl
  · have named : sheet.cellNamed name = .ok cell := by
      rw [cellNamed, addressOf_of_parse parsed]
      exact there
    refine ⟨named, ?_⟩
    rw [displayNamed, named]
    rfl
  · rw [mem_formulas, source]
  · rw [nonEmptyCells, List.mem_filter, listed, Bool.not_eq_true']
    exact and_congr_right fun same => by rw [same]

end Looking

section Writing

/-- What can be written to a sheet. -/
inductive Write where
  | content (address : Address) (text : String)
  | named (name : String) (text : String)
  | display (address : Address) (text : String)
  | clear (address : Address)
  | change (address : Address) (altered : Cell → Cell)

/-- The address that a write is to. -/
def Write.target : Write → Except SheetFault Address
  | .content address _ | .display address _ | .clear address | .change address _ => .ok address
  | .named name _ => addressOf name

/-- What a write makes of the cell that it is to. -/
def Write.effect : Write → Cell → Cell
  | .content _ text, cell => cell.setContent text
  | .named _ text, cell => cell.setContent text
  | .display _ text, cell => cell.setDisplay text
  | .clear _, _ => Cell.empty
  | .change _ altered, cell => altered cell

/-- What a write makes of the cell at an address, be it to this address or to another one. -/
def Write.at (address : Address) (cell : Cell) (write : Write) : Cell :=
  if write.target = .ok address then write.effect cell else cell

/-- The sheet after a write, unless it is refused. -/
def write (sheet : Sheet) : Write → Except SheetFault Sheet
  | .content address text => sheet.setContent address text
  | .named name text => sheet.setNamed name text
  | .display address text => sheet.setDisplay address text
  | .clear address => sheet.clear address
  | .change address altered => sheet.modify address altered

/-- The sheet after some writes in turn; one that is refused leaves the sheet as it was. -/
def writes (sheet : Sheet) (history : List Write) : Sheet :=
  history.foldl (fun sheet write => (sheet.write write).toOption.getD sheet) sheet

variable {write : Write}

/-- Every write changes the cell at its address, if it has one. -/
theorem write_eq (sheet : Sheet) (write : Write) :
    sheet.write write = write.target >>= fun address => sheet.modify address write.effect := by
  cases write <;> rfl

/-- A write to an address changes the cell there. -/
theorem write_of_target (target : write.target = .ok address) :
    sheet.write write = sheet.modify address write.effect := by
  rw [write_eq, target]
  rfl

/-- A write changes at most what the cell that it is to holds and shows. -/
theorem cellAt?_write (done : sheet.write write = .ok changed) (address : Address) :
    changed.cellAt? address = (sheet.cellAt? address).map fun cell => write.at address cell := by
  rw [write_eq] at done
  obtain ⟨target, told, modified⟩ := exists_ok_of_bind done
  rw [cellAt?_modify modified]
  unfold Write.at
  -- The address is that of the write, or no cell there is changed.
  by_cases same : address = target
  · simp only [same, told, if_true]
  · have elsewhere : write.target ≠ .ok address := by
      rw [told]
      exact fun equal => same (Except.ok.inj equal).symm
    simp only [if_neg same, if_neg elsewhere, Option.map_id']

/-- A write keeps the size of the grid. -/
theorem size_write (done : sheet.write write = .ok changed) :
    changed.rows = sheet.rows ∧ changed.cols = sheet.cols := by
  rw [write_eq] at done
  obtain ⟨target, _, modified⟩ := exists_ok_of_bind done
  exact size_modify modified

/-- A write to an address of the grid succeeds, is seen there in every way, and leaves all other
addresses. -/
theorem exists_write (target : write.target = .ok address)
    (inside : sheet.contains address = true) :
    ∃ changed, sheet.write write = .ok changed ∧
      (∀ cell, sheet.Shows address cell → changed.Shows address (write.effect cell)) ∧
      ∀ other ≠ address, changed.cellAt? other = sheet.cellAt? other ∧
        ∀ cell, sheet.Shows other cell → changed.Shows other cell := by
  obtain ⟨changed, modified⟩ := exists_modify inside write.effect
  have cells := cellAt?_modify modified
  -- All ways of looking follow the cell at an address, so it is enough to know these cells.
  refine ⟨changed, (write_of_target target).trans modified, fun cell shows => ?_,
    fun other elsewhere => ?_⟩
  · apply shows_of_cellAt?
    rw [cells, if_pos rfl, shows.found, Option.map_some]
  · have same : changed.cellAt? other = sheet.cellAt? other := by
      rw [cells, if_neg elsewhere]
    exact ⟨same, fun cell shows => shows_of_cellAt? (same.trans shows.found)⟩

/-- What is written at an address is told there afterwards. A text that is typed is held, and it is
shown unless it is a formula, which leaves what was shown before. A text to be shown is shown, and
leaves what is held. A cell that is cleared holds and shows nothing. -/
structure Records (sheet : Sheet) (address : Address) : Prop where
  content : ∀ text, ∃ changed, sheet.setContent address text = .ok changed ∧
    changed.contentAt address = .ok text ∧
    changed.displayAt address =
      (if text.toList.head? = some Formula.sigil then sheet.displayAt address else .ok text) ∧
    changed.isFormula address = decide (text.toList.head? = some Formula.sigil)
  named : ∀ name text, Address.parse name = .ok address →
    sheet.setNamed name text = sheet.setContent address text
  display : ∀ text, ∃ changed, sheet.setDisplay address text = .ok changed ∧
    changed.contentAt address = sheet.contentAt address ∧ changed.displayAt address = .ok text ∧
    changed.isFormula address = sheet.isFormula address
  clear : ∃ changed, sheet.clear address = .ok changed ∧ changed.contentAt address = .ok "" ∧
    changed.displayAt address = .ok "" ∧ changed.isFormula address = false

/-- In the grid what is written at an address is told there. -/
theorem records (inside : sheet.contains address = true) : sheet.Records address := by
  obtain ⟨cell, found⟩ := Option.isSome_iff_exists.mp (isSome_cellAt?.trans inside)
  have before := shows_of_cellAt? found
  -- A write is seen in the cell that it makes of the one that was there.
  constructor
  case content =>
    intro text
    obtain ⟨changed, done, seen, _⟩ := exists_write
      (show (Write.content address text).target = .ok address from rfl) inside
    have after := seen cell before
    refine ⟨changed, done, ?_, ?_, after.formula.trans (cell.isFormula_setContent text)⟩
    · exact after.content.trans (congrArg _ (cell.content_setContent text))
    · rw [after.display, before.display, Write.effect, cell.display_setContent text]
      split <;> rfl
  case named =>
    intro name text parsed
    rw [setNamed, addressOf_of_parse parsed]
    rfl
  case display =>
    intro text
    obtain ⟨changed, done, seen, _⟩ := exists_write
      (show (Write.display address text).target = .ok address from rfl) inside
    have after := seen cell before
    exact ⟨changed, done, after.content.trans before.content.symm, after.display,
      after.formula.trans before.formula.symm⟩
  case clear =>
    obtain ⟨changed, done, seen, _⟩ := exists_write
      (show (Write.clear address).target = .ok address from rfl) inside
    have after := seen cell before
    exact ⟨changed, done, after.content, after.display, after.formula⟩

/-- A write that is refused has no cell to change. -/
theorem cellAt?_of_refused (refused : sheet.write write = .error fault)
    (target : write.target = .ok address) : sheet.cellAt? address = none := by
  rw [write_of_target target] at refused
  exact cellAt?_of_not_contains (not_contains_of_modify refused)

/-- One more write makes the cell at its address what it says, unless it is refused. -/
theorem writes_step (sheet : Sheet) (write : Write) :
    let after := (sheet.write write).toOption.getD sheet
    (after.rows = sheet.rows ∧ after.cols = sheet.cols) ∧
      ∀ address, after.cellAt? address =
        (sheet.cellAt? address).map fun cell => write.at address cell := by
  cases done : sheet.write write with
  | ok changed => exact ⟨size_write done, cellAt?_write done⟩
  | error fault =>
    refine ⟨⟨rfl, rfl⟩, fun address => ?_⟩
    show sheet.cellAt? address = _
    unfold Write.at
    -- A write that is refused is to no address of the grid, so no cell should have changed.
    split
    · rename_i target
      rw [cellAt?_of_refused done target, Option.map_none]
    · rw [Option.map_id']

/-- After some writes each cell is what they make of it one after the other. -/
theorem writes_spec (sheet : Sheet) (history : List Write) :
    ((sheet.writes history).rows = sheet.rows ∧ (sheet.writes history).cols = sheet.cols) ∧
      ∀ address, (sheet.writes history).cellAt? address =
        (sheet.cellAt? address).map fun cell => history.foldl (Write.at address) cell := by
  -- The induction goes from one write to those after it.
  induction history generalizing sheet with
  | nil => exact ⟨⟨rfl, rfl⟩, fun address => by simp [writes]⟩
  | cons write rest ih =>
    obtain ⟨⟨rows, cols⟩, cells⟩ := writes_step sheet write
    obtain ⟨⟨restRows, restCols⟩, restCells⟩ := ih ((sheet.write write).toOption.getD sheet)
    refine ⟨⟨restRows.trans rows, restCols.trans cols⟩, fun address => ?_⟩
    refine (restCells address).trans ?_
    rw [cells, Option.map_map]
    rfl

end Writing

section Refusing

/-- Every way of looking at an address or of writing to it is refused, and no cell is listed
there. -/
structure Refuses (sheet : Sheet) (address : Address) (fault : SheetFault) : Prop where
  cellAt : sheet.cellAt address = .error fault
  missing : sheet.cellAt? address = none
  content : sheet.contentAt address = .error fault
  display : sheet.displayAt address = .error fault
  formula : sheet.isFormula address = false
  named : ∀ name, Address.parse name = .ok address →
    sheet.cellNamed name = .error fault ∧ sheet.displayNamed name = .error fault
  listed : ∀ cell, (address, cell) ∉ sheet.toList
  written : ∀ write : Write, write.target = .ok address →
    sheet.write write = .error fault ∧ sheet.writes [write] = sheet

/-- Every way of using a text for an address is refused. -/
structure Rejects (sheet : Sheet) (name : String) (fault : SheetFault) : Prop where
  cell : sheet.cellNamed name = .error fault
  display : sheet.displayNamed name = .error fault
  written : ∀ text, sheet.setNamed name text = .error fault ∧
    sheet.writes [.named name text] = sheet

/-- A write that is refused leaves the sheet as it was. -/
theorem writes_of_refused {write : Write} (refused : sheet.write write = .error fault) :
    sheet.writes [write] = sheet := by
  rw [writes, List.foldl_cons, refused]
  rfl

/-- An address without a place is refused in every way for the same reason. -/
theorem refuses_of_locate (nowhere : sheet.locate address = .error fault) :
    sheet.Refuses address fault := by
  have refused : sheet.cellAt address = .error fault := by
    rw [cellAt, nowhere]
    rfl
  have missing : sheet.cellAt? address = none := by
    rw [cellAt?, refused]
    rfl
  -- All ways of looking and of writing ask for the place first.
  refine ⟨refused, missing, ?_, ?_, ?_, fun name parsed => ?_, fun cell member => ?_,
    fun write target => ?_⟩
  · rw [contentAt, refused]
    rfl
  · rw [displayAt, refused]
    rfl
  · rw [isFormula, source?, missing]
    rfl
  · have named : sheet.cellNamed name = .error fault := by
      rw [cellNamed, addressOf_of_parse parsed]
      exact refused
    refine ⟨named, ?_⟩
    rw [displayNamed, named]
    rfl
  · simp [mem_toList, missing] at member
  · have unwritten : sheet.write write = .error fault := by
      rw [write_of_target target, modify, nowhere]
      rfl
    exact ⟨unwritten, writes_of_refused unwritten⟩

/-- A text that is no address is refused in every way for the same reason. -/
theorem rejects_of_parse {name : String} {fault : AddressFault}
    (unnamed : Address.parse name = .error fault) (sheet : Sheet) :
    sheet.Rejects name (.invalidAddress fault) := by
  have nothing : addressOf name = .error (.invalidAddress fault) := by
    rw [addressOf, unnamed]
    rfl
  -- Looking and writing read the text before they look for the cell.
  have refused : sheet.cellNamed name = .error (.invalidAddress fault) := by
    rw [cellNamed, nothing]
    rfl
  have unwritten : ∀ text, sheet.setNamed name text = .error (.invalidAddress fault) := by
    intro text
    rw [setNamed, nothing]
    rfl
  refine ⟨refused, ?_, fun text => ⟨unwritten text, writes_of_refused (unwritten text)⟩⟩
  rw [displayNamed, refused]
  rfl

end Refusing

/-- Whatever has been written to an empty grid, the sheet is a map from the addresses of the grid to
cells. Where an address is in the grid, every way of looking there tells what the writes have made
of the cell one after the other; one more write to it succeeds, is told there as it was written and
seen in every way, and leaves all other addresses. Elsewhere every operation is refused and changes
nothing. The cells are listed at the addresses of the grid in order, each once. -/
theorem writes_finiteMap (rows cols : UInt32) (history : List Write) :
    let sheet := (ofSize rows cols).writes history
    (sheet.rows = rows ∧ sheet.cols = cols) ∧
      (∀ address, ((∃ cell, sheet.cellAt? address = some cell) ↔ sheet.contains address = true) ∧
        (sheet.contains address = true ↔ address ∈ sheet.addresses)) ∧
      (∀ address ∈ sheet.addresses,
        sheet.Shows address (history.foldl (Write.at address) Cell.empty)) ∧
      -- A write to the grid.
      (∀ write address, write.target = .ok address → address ∈ sheet.addresses →
        ∃ changed, sheet.write write = .ok changed ∧
          (∀ cell, sheet.Shows address cell → changed.Shows address (write.effect cell)) ∧
          ∀ other ≠ address, changed.cellAt? other = sheet.cellAt? other ∧
            ∀ cell, sheet.Shows other cell → changed.Shows other cell) ∧
      (∀ address ∈ sheet.addresses, sheet.Records address) ∧
      -- A wrong row is told whatever the column is.
      (∀ address : Address, address.row = 0 ∨ rows < address.row →
        sheet.Refuses address (.rowOutOfBounds address.row rows)) ∧
      (∀ address : Address, address.row ≠ 0 ∧ address.row ≤ rows →
        address.col = 0 ∨ cols < address.col →
        sheet.Refuses address (.columnOutOfBounds address.col cols)) ∧
      (∀ name fault, Address.parse name = .error fault →
        sheet.Rejects name (.invalidAddress fault)) ∧
      -- The cells of the grid in order.
      sheet.toList =
          sheet.addresses.filterMap (fun address => (sheet.cellAt? address).map (address, ·)) ∧
        sheet.toList.map Prod.fst = sheet.addresses ∧ sheet.addresses.Nodup := by
  intro sheet
  obtain ⟨⟨sameRows, sameCols⟩, cells⟩ := writes_spec (ofSize rows cols) history
  have sheetRows : sheet.rows = rows := sameRows
  have sheetCols : sheet.cols = cols := sameCols
  have contains : ∀ address, (ofSize rows cols).contains address = sheet.contains address := by
    intro address
    rw [Sheet.contains, Sheet.contains, sheetRows, sheetCols]
    rfl
  -- The writes keep the size of the grid, so its addresses are those of the empty grid.
  refine ⟨⟨sheetRows, sheetCols⟩, fun address => ⟨?_, mem_addresses.symm⟩, fun address member => ?_,
    fun write address target member => ?_, fun address member => records (mem_addresses.mp member),
    fun address outside => ?_, fun address row outside => ?_,
    fun name fault unnamed => rejects_of_parse unnamed sheet, sheet.toList_eq,
    sheet.addresses_toList, ?_⟩
  · rw [← Option.isSome_iff_exists, isSome_cellAt?]
  · have inside : (ofSize rows cols).contains address = true :=
      (contains address).trans (mem_addresses.mp member)
    apply shows_of_cellAt?
    rw [cells, cellAt?_ofSize inside, Option.map_some]
  · exact exists_write target (mem_addresses.mp member)
  · rw [← sheetRows] at outside ⊢
    exact refuses_of_locate (locate_of_row outside)
  · rw [← sheetRows] at row
    rw [← sheetCols] at outside ⊢
    exact refuses_of_locate (locate_of_col row outside)
  · exact Graph.nodup_of_pairwise_before sheet.pairwise_addresses

end Sheet

end Spreadsheet
