import Mathlib.Data.List.Induction
import Spreadsheet.Proofs.Sheet.Writes

/-! Contents entered into named cells one after the other: none is refused where every name is that
of a cell in the grid, and each cell then holds what was entered into it last. -/

namespace Spreadsheet.Sheet

variable {sheet changed : Sheet} {name : String} {calls : List (String × String)}

section Naming

/-- A text names a cell of a sheet if it is read as an address of the grid. -/
def HasNamed (sheet : Sheet) (name : String) : Prop :=
  ∃ address, Address.parse name = .ok address ∧ sheet.contains address = true

/-- Whether a text names a cell depends on the size of the grid alone. -/
theorem hasNamed_congr (size : changed.rows = sheet.rows ∧ changed.cols = sheet.cols) :
    changed.HasNamed name ↔ sheet.HasNamed name := by
  simp only [HasNamed, contains, size.1, size.2]

/-- The content of a named cell can be replaced, which keeps the size of the grid. -/
theorem exists_setNamed (named : sheet.HasNamed name) (content : String) :
    ∃ changed, sheet.setNamed name content = .ok changed ∧
      changed.rows = sheet.rows ∧ changed.cols = sheet.cols := by
  obtain ⟨address, parsed, inside⟩ := named
  have target : (Write.named name content).target = .ok address := addressOf_of_parse parsed
  obtain ⟨changed, done, _⟩ := exists_write target inside
  exact ⟨changed, done, size_write done⟩

/-- A text that names no cell is refused. -/
theorem exists_fault_setNamed (unnamed : ¬ sheet.HasNamed name) (content : String) :
    ∃ fault, sheet.setNamed name content = .error fault := by
  cases parsed : Address.parse name with
  | error fault => exact ⟨_, ((rejects_of_parse parsed sheet).written content).1⟩
  | ok address =>
    have outside : sheet.contains address = false :=
      Bool.eq_false_iff.mpr fun inside => unnamed ⟨address, parsed, inside⟩
    obtain ⟨fault, nowhere⟩ := locate_of_not_contains outside
    have target : (Write.named name content).target = .ok address := addressOf_of_parse parsed
    exact ⟨fault, ((refuses_of_locate nowhere).written _ target).1⟩

end Naming

/-- Enters contents into the cells that some texts name, one after the other. -/
def setAll (calls : List (String × String)) (sheet : Sheet) : Except SheetFault Sheet :=
  calls.foldlM (fun sheet call => sheet.setNamed call.1 call.2) sheet

/-- The first content is entered before the others. -/
theorem setAll_cons (call : String × String) (rest : List (String × String)) (sheet : Sheet) :
    setAll (call :: rest) sheet = sheet.setNamed call.1 call.2 >>= setAll rest :=
  List.foldlM_cons

/-- Two lists of contents are entered one after the other. -/
theorem setAll_append (first second : List (String × String)) (sheet : Sheet) :
    setAll (first ++ second) sheet = setAll first sheet >>= setAll second :=
  List.foldlM_append

/-- One more content is entered after the others. -/
theorem setAll_concat (calls : List (String × String)) (call : String × String) (sheet : Sheet) :
    setAll (calls ++ [call]) sheet =
      setAll calls sheet >>= fun reached => reached.setNamed call.1 call.2 := by
  simp only [setAll, List.foldlM_append, List.foldlM_cons, List.foldlM_nil, bind_pure]

/-- Where every text names a cell nothing is refused, and the size of the grid is kept. -/
theorem exists_setAll (named : ∀ call ∈ calls, sheet.HasNamed call.1) :
    ∃ filled, setAll calls sheet = .ok filled ∧
      filled.rows = sheet.rows ∧ filled.cols = sheet.cols := by
  -- Each content leaves a sheet of the same size, in which the later texts name cells as before.
  induction calls generalizing sheet with
  | nil => exact ⟨sheet, rfl, rfl, rfl⟩
  | cons call rest ih =>
    obtain ⟨here, later⟩ := List.forall_mem_cons.mp named
    obtain ⟨changed, done, size⟩ := exists_setNamed here call.2
    obtain ⟨filled, succeeds, rows, cols⟩ :=
      ih fun other member => (hasNamed_congr size).mpr (later other member)
    refine ⟨filled, ?_, rows.trans size.1, cols.trans size.2⟩
    rw [setAll_cons, done]
    exact succeeds

section Last

/-- The content entered last into the cell at an address, if any is. -/
def lastEntered? (calls : List (String × String)) (address : Address) : Option String :=
  (calls.filter fun call => addressOf call.1 = .ok address).getLast?.map Prod.snd

/-- One more content is the last one for the cell that it is entered into. -/
theorem lastEntered?_concat (calls : List (String × String)) (call : String × String)
    (address : Address) : lastEntered? (calls ++ [call]) address =
      if addressOf call.1 = .ok address then some call.2 else lastEntered? calls address := by
  unfold lastEntered?
  split
  · rename_i target
    simp [List.filter_append, target]
  · rename_i elsewhere
    simp [List.filter_append, elsewhere]

/-- A named cell holds the content entered into it, and every other cell what it held. -/
theorem content_at_named (name content : String) (address : Address) (cell : Cell) :
    (Write.at address cell (.named name content)).content =
      if addressOf name = .ok address then content else cell.content := by
  have held : (cell.setContent content).content = content := by
    unfold Cell.setContent
    split <;> rfl
  exact (apply_ite Cell.content _ _ _).trans (if_congr Iff.rfl held rfl)

/-- Each cell holds what was entered into it last, or else what it held before. -/
theorem content_setAll {filled : Sheet} (succeeds : setAll calls sheet = .ok filled)
    (address : Address) : (filled.cellAt? address).map Cell.content =
      (sheet.cellAt? address).map fun cell => (lastEntered? calls address).getD cell.content := by
  -- The induction is from the last content on, since that one decides.
  induction calls using List.reverseRecOn generalizing filled with
  | nil =>
    obtain rfl : sheet = filled := Except.ok.inj succeeds
    rfl
  | append_singleton calls call ih =>
    rw [setAll_concat] at succeeds
    obtain ⟨reached, before, last⟩ := exists_ok_of_bind succeeds
    have done : reached.write (.named call.1 call.2) = .ok filled := last
    let held (content : String) : String :=
      if addressOf call.1 = .ok address then call.2 else content
    calc (filled.cellAt? address).map Cell.content
      _ = ((reached.cellAt? address).map Cell.content).map held := by
        rw [cellAt?_write done, Option.map_map, Option.map_map]
        exact congrArg (Option.map · _) (funext (content_at_named call.1 call.2 address))
      _ = (sheet.cellAt? address).map fun cell =>
          held ((lastEntered? calls address).getD cell.content) := by
        rw [ih before, Option.map_map]
        rfl
      _ = _ := by
        simp only [held, lastEntered?_concat]
        split <;> rfl

end Last

end Spreadsheet.Sheet
