import Spreadsheet.Proofs.Address
import Spreadsheet.Proofs.Sheet.Redisplay

/-! A recalculation depends on the contents of a sheet and on nothing else that was done to it. -/

namespace Spreadsheet

open Formula (Depth EvalFault Fault Read Reading maxNodes)

namespace Pass

variable {maxReads : Nat} {left right : Pass} {address : Address} {source : String} {depth : Depth}

/-- Two passes that have come equally far: they know the same texts, and beside these they differ
at most in what formulas show that are not settled. -/
structure Twins (left right : Pass) : Prop where
  alike : left.sheet.Alike right.sheet
  settled : left.settled = right.settled
  calculated : left.calculated = right.calculated
  errors : left.errors = right.errors
  known : ∀ address, left.known address = right.known address

/-- Passes over sheets that are alike start as twins. -/
theorem twins_start {one other : Sheet} (alike : one.Alike other) :
    Twins (start one) (start other) := by
  refine ⟨alike, rfl, rfl, rfl, fun address => ?_⟩
  -- A formula is not known on either side, and any other cell is the same on both.
  cases formula : one.source? address with
  | some source =>
    rw [(known_start one address).mpr (by rw [formula]; rfl),
      (known_start other address).mpr (by rw [← alike.source?, formula]; rfl)]
  | none =>
    have same : (start one).sheet.cellAt? address = (start other).sheet.cellAt? address :=
      alike.plain address formula
    rw [known_of_plain formula, known_of_plain ((alike.source? address).symm.trans formula),
      textAt_eq, textAt_eq, same]

/-- Two cells with the same content that show the same are the same. -/
theorem cellAt?_eq (content : (left.sheet.cellAt? address).map Cell.content =
      (right.sheet.cellAt? address).map Cell.content)
    (text : left.textAt address = right.textAt address) :
    left.sheet.cellAt? address = right.sheet.cellAt? address := by
  rw [textAt_eq, textAt_eq] at text
  -- Two cells are both there or both outside the grid.
  cases one : left.sheet.cellAt? address with
  | none =>
    cases other : right.sheet.cellAt? address with
    | none => rfl
    | some cell => simp [one, other] at content
  | some cell =>
    cases other : right.sheet.cellAt? address with
    | none => simp [one, other] at content
    | some cell' =>
      obtain ⟨_, _⟩ := cell
      obtain ⟨_, _⟩ := cell'
      simp_all

/-- Settling a formula in the same way keeps twins. -/
theorem Twins.settle (twins : Twins left right) (formula : left.sheet.source? address = some source)
    (display : String) : Twins (left.settle address display) (right.settle address display) := by
  have other := (twins.alike.source? address).symm.trans formula
  refine ⟨?_, congrArg (address :: ·) twins.settled, twins.calculated, twins.errors, fun cell => ?_⟩
  · exact ((alike_settle formula display).symm.trans twins.alike).trans (alike_settle other display)
  · rw [known_settle formula, known_settle other, twins.known cell]

/-- Concluding a computation of a formula with the same result keeps twins. -/
theorem Twins.conclude (twins : Twins left right)
    (formula : left.sheet.source? address = some source) (reads : Nat)
    (result : Except Fault String) :
    (left.conclude address reads result).1 = (right.conclude address reads result).1 ∧
      Twins (left.conclude address reads result).2 (right.conclude address reads result).2 := by
  have stored : ∀ display errors, Twins
      { left.settle address display with
        calculated := left.calculated + 1, errors := left.errors + errors }
      { right.settle address display with
        calculated := right.calculated + 1, errors := right.errors + errors } := by
    intro display errors
    have settled := twins.settle formula display
    exact ⟨settled.alike, settled.settled, congrArg (· + 1) twins.calculated,
      congrArg (· + errors) twins.errors, settled.known⟩
  -- A text is stored, and so is a fault, unless it is given up.
  cases result with
  | ok text => exact ⟨rfl, stored text 0⟩
  | error fault =>
    -- Both are given up or both are stored.
    simp only [Pass.conclude]
    split
    · exact ⟨rfl, twins⟩
    · exact ⟨rfl, stored fault.marker 1⟩

/-- Running a computation gives the same result on twins and keeps them, if answering its requests
does. -/
theorem Twins.run {reading : Reading Read (Except Fault String)}
    (deeper : reading.Holds (Deeper depth) fun _ => True)
    (answers : ∀ read {left right : Pass}, Deeper depth read → Twins left right →
      (left.compute maxReads read.address read.depth).1 =
        (right.compute maxReads read.address read.depth).1 ∧
      Twins (left.compute maxReads read.address read.depth).2
        (right.compute maxReads read.address read.depth).2) (twins : Twins left right) :
    (reading.run (answer maxReads) left).1 = (reading.run (answer maxReads) right).1 ∧
      Twins (reading.run (answer maxReads) left).2 (reading.run (answer maxReads) right).2 := by
  -- The two runs go the same way for as long as they get the same answers.
  induction reading generalizing left right with
  | done result => exact ⟨rfl, twins⟩
  | ask read next ih =>
    rw [Reading.run, Reading.run]
    have same := twins.known read.address
    cases found : left.known read.address with
    | some text =>
      -- What is known is known to both.
      rw [answer_of_known read found, answer_of_known read (same.symm.trans found)]
      exact ih text (deeper.2 text) twins
    | none =>
      rw [answer_of_unknown read found, answer_of_unknown read (same.symm.trans found)]
      obtain ⟨answer, later⟩ := answers read deeper.1 twins
      dsimp only
      rw [answer]
      exact ih _ (deeper.2 _) later

/-- Computing a cell gives the same text on twins and keeps them. -/
theorem Twins.compute (twins : Twins left right) (maxReads : Nat) (address : Address)
    (depth : Depth) :
    (left.compute maxReads address depth).1 = (right.compute maxReads address depth).1 ∧
      Twins (left.compute maxReads address depth).2 (right.compute maxReads address depth).2 := by
  -- Every read is deeper, so the ceiling on expressions bounds the recursion.
  induction room : maxNodes - depth.nodes using Nat.strong_induction_on
    generalizing left right address depth with
  | _ remaining ih =>
    have sources := twins.alike.source? address
    cases formula : left.sheet.source? address with
    | none =>
      rw [compute_eq, compute_eq, formula, sources.symm.trans formula]
      refine ⟨?_, twins⟩
      -- A cell without a formula is the same in both.
      show left.textAt address = right.textAt address
      rw [textAt_eq, textAt_eq, twins.alike.plain address formula]
    | some source =>
      rw [compute_of_source formula, compute_of_source (sources.symm.trans formula)]
      obtain ⟨result, later⟩ := Twins.run (attempt_deeper maxReads address source depth)
        (fun read _ _ below twins => ih (maxNodes - read.depth.nodes)
          (by have := below.1; have := below.2; omega) twins read.address read.depth rfl) twins
      have stays := (alike_attempt maxReads address source depth left).source? address
      rw [result]
      exact later.conclude (stays.symm.trans formula) depth.reads _

/-- Marking formulas as circular keeps twins. -/
theorem Twins.settleCirculars (twins : Twins left right) {cells : List Address}
    (formulas : ∀ address ∈ cells, (left.sheet.source? address).isSome = true) :
    Twins (cells.foldl settleCircular left) (cells.foldl settleCircular right) := by
  -- Every cell is marked with the same text on both sides, and counted once.
  induction cells generalizing left right with
  | nil => exact twins
  | cons first rest ih =>
    obtain ⟨firstFormula, others⟩ := List.forall_mem_cons.mp formulas
    obtain ⟨source, formula⟩ := Option.isSome_iff_exists.mp firstFormula
    have settled := twins.settle formula Formula.circularMarker
    have marked : Twins (left.settleCircular first) (right.settleCircular first) :=
      ⟨settled.alike, settled.settled, settled.calculated, congrArg (· + 1) settled.errors,
        settled.known⟩
    refine ih marked fun address member => ?_
    rw [← (alike_settleCircular formula).source? address]
    exact others address member

/-- Visiting a cell keeps twins. -/
theorem Twins.visit (twins : Twins left right) (maxReads : Nat) (address : Address) :
    Twins (left.visit maxReads address) (right.visit maxReads address) := by
  -- Both passes compute the cell, or both have it settled.
  have settled : left.isSettled address = right.isSettled address := by
    rw [isSettled, isSettled, twins.settled]
  unfold Pass.visit
  rw [settled]
  split
  · exact twins
  · exact (twins.compute maxReads address ⟨0, 0⟩).2

/-- Visiting some cells in turn keeps twins. -/
theorem Twins.visits (twins : Twins left right) (maxReads : Nat) (order : List Address) :
    Twins (order.foldl (Pass.visit maxReads) left) (order.foldl (Pass.visit maxReads) right) := by
  induction order generalizing left right with
  | nil => exact twins
  | cons first rest ih => exact ih (twins.visit maxReads first)

end Pass

namespace Sheet

variable {left right sheet changed : Sheet} {maxReads : Nat} {address : Address}

/-- Recalculating keeps a sheet alike: the contents stay, and so does what other cells show. -/
theorem alike_calculate (sheet : Sheet) (maxReads : Nat) :
    sheet.Alike (sheet.calculate maxReads).1 := by
  -- Marks and visits change what formulas show.
  rw [calculate_eq]
  have marked : (Pass.start sheet).sheet.Alike sheet.marking.sheet :=
    Pass.alike_settleCirculars fun address member =>
      mem_schedule.mp (List.mem_append_right _ member)
  exact marked.trans (Pass.alike_visits maxReads sheet.graph.schedule.order sheet.marking)

/-- Recalculating sheets that are alike gives the same sheet and the same tally. -/
theorem Alike.calculate (alike : Alike left right) (maxReads : Nat) :
    left.calculate maxReads = right.calculate maxReads := by
  -- The schedules are the same, so twins are kept from the start to the end.
  have marked : Pass.Twins left.marking right.marking := by
    unfold marking
    rw [← alike.graph]
    exact (Pass.twins_start alike).settleCirculars fun address member =>
      mem_schedule.mp (List.mem_append_right _ member)
  have twins : Pass.Twins (left.recalculation maxReads) (right.recalculation maxReads) := by
    unfold recalculation visiting
    rw [← alike.graph]
    exact marked.visits maxReads _
  -- All cells are known in the end, so the passes end with the same sheet.
  have sheets : (left.recalculation maxReads).sheet = (right.recalculation maxReads).sheet := by
    refine twins.alike.eq_of_cellAt? fun address => ?_
    have texts := twins.known address
    rw [known_recalculation, known_recalculation, Option.some.injEq] at texts
    exact Pass.cellAt?_eq (twins.alike.contents address) texts
  rw [calculate_eq, calculate_eq, sheets, twins.calculated, twins.errors, alike.graph]

/-- Recalculating again changes nothing. -/
theorem calculate_calculate (sheet : Sheet) (maxReads : Nat) :
    (sheet.calculate maxReads).1.calculate maxReads = sheet.calculate maxReads := by
  -- The first recalculation leaves the contents, and the second one starts from these.
  exact ((sheet.alike_calculate maxReads).calculate maxReads).symm

/-- Computing one cell keeps a sheet alike. -/
theorem alike_evaluateCell {text : String}
    (done : sheet.evaluateCell address = .ok (text, changed)) : sheet.Alike changed := by
  have computed := Pass.alike_compute Formula.defaultMaxReads address ⟨0, 0⟩ (Pass.start sheet)
  -- Only the pass of the computation touches the sheet.
  unfold evaluateCell at done
  split at done
  · -- Whether the formula has a text or a fault, the sheet is the one that the pass ends with.
    dsimp only at done
    split at done
    · obtain ⟨_, rfl⟩ := Prod.mk.inj (Except.ok.inj done)
      exact computed
    · obtain ⟨_, rfl⟩ := Prod.mk.inj (Except.ok.inj done)
      exact computed
  · -- A cell without a formula is only looked up.
    obtain ⟨cell, _, shown⟩ := exists_ok_of_bind done
    obtain ⟨_, rfl⟩ := Prod.mk.inj (Except.ok.inj shown)
    exact .refl sheet

/-- All cells but formulas show their contents. -/
def Plain (sheet : Sheet) : Prop :=
  ∀ address cell, sheet.cellAt? address = some cell → cell.source? = none →
    cell.display = cell.content

/-- On a sheet of empty cells the cells show what they hold. -/
theorem plain_ofSize (rows cols : UInt32) : (ofSize rows cols).Plain := by
  intro address cell found _
  have inside : (ofSize rows cols).contains address = true := by
    rw [← isSome_cellAt?, found, Option.isSome_some]
  -- Every cell of the grid is the same.
  obtain rfl := Option.some.inj ((cellAt?_ofSize inside).symm.trans found)
  rfl

/-- Changing a cell keeps the other cells plain, and the changed one has to be so as well. -/
theorem Plain.modify {change : Cell → Cell} (plain : sheet.Plain)
    (done : sheet.modify address change = .ok changed)
    (shows : ∀ cell, (change cell).source? = none →
      (change cell).display = (change cell).content) : changed.Plain := by
  intro other cell found none
  -- The cell is the one that is changed, or it was there before.
  rw [cellAt?_modify done] at found
  split at found
  · obtain ⟨before, _, rfl⟩ := Option.map_eq_some_iff.mp found
    exact shows before none
  · exact plain other cell found none

/-- Replacing a content keeps a sheet plain: what is not a formula shows at once. -/
theorem Plain.setContent {content : String} (plain : sheet.Plain)
    (done : sheet.setContent address content = .ok changed) : changed.Plain := by
  refine plain.modify done fun cell none => ?_
  -- The content alone decides whether there is a formula, and with it what happens to the display.
  unfold Cell.setContent at none ⊢
  split
  · rename_i formula
    rw [if_pos formula, Cell.source?] at none
    simp [none] at formula
  · rfl

/-- Sheets that are alike are plain together. -/
theorem Alike.isPlain (alike : Alike left right) (plain : left.Plain) : right.Plain := by
  intro address cell found none
  -- A cell without a formula is the same on both.
  have source : right.source? address = Option.none := by
    rw [Sheet.source?, found]
    exact none
  have same := alike.plain address ((alike.source? address).trans source)
  exact plain address cell (same.trans found) none

/-- Plain sheets with the same contents are alike. -/
theorem alike_of_contents (rows : left.rows = right.rows) (cols : left.cols = right.cols)
    (plain : left.Plain) (otherPlain : right.Plain)
    (contents : ∀ address,
      (left.cellAt? address).map Cell.content = (right.cellAt? address).map Cell.content) :
    Alike left right := by
  refine ⟨rows, cols, contents, fun address none => ?_⟩
  have content := contents address
  cases one : left.cellAt? address with
  | none =>
    rw [one, Option.map_none] at content
    exact (Option.map_eq_none_iff.mp content.symm).symm
  | some cell =>
    -- Both cells hold the same and are no formulas, so they show the same too.
    rw [one, Option.map_some] at content
    obtain ⟨other, two, same⟩ := Option.map_eq_some_iff.mp content.symm
    have source : cell.source? = Option.none := by
      simpa [Sheet.source?, one] using none
    have shown := plain address cell one source
    have otherShown := otherPlain address other two <| by
      rw [Cell.source?, same]
      exact source
    rw [two]
    obtain ⟨content, display⟩ := cell
    obtain ⟨otherContent, otherDisplay⟩ := other
    simp_all

/-- What can be done to a sheet. -/
inductive Action where
  | setContent (address : Address) (content : String)
  | setNamed (name : String) (content : String)
  | clear (address : Address)
  | calculate (maxReads : Nat)
  | evaluateCell (address : Address)
  | setAndCalculate (address : Address) (content : String)

/-- The sheet after an action, unless the action is refused. -/
def act (sheet : Sheet) : Action → Except SheetFault Sheet
  | .setContent address content => sheet.setContent address content
  | .setNamed name content => sheet.setNamed name content
  | .clear address => sheet.clear address
  | .calculate maxReads => .ok (sheet.calculate maxReads).1
  | .evaluateCell address => (sheet.evaluateCell address).map Prod.snd
  | .setAndCalculate address content => (sheet.setAndCalculate address content).map Prod.fst

/-- The sheet after some actions in turn; one that is refused leaves the sheet as it was. -/
def acts (sheet : Sheet) (actions : List Action) : Sheet :=
  actions.foldl (fun sheet action => (sheet.act action).toOption.getD sheet) sheet

/-- A sheet has come from another by actions: the grid has the same size, and cells that show their
contents still do. -/
structure Kept (before after : Sheet) : Prop where
  rows : before.rows = after.rows
  cols : before.cols = after.cols
  plain : before.Plain → after.Plain

/-- Keeping a sheet carries over. -/
theorem Kept.trans {before middle after : Sheet} (first : Kept before middle)
    (second : Kept middle after) : Kept before after :=
  ⟨first.rows.trans second.rows, first.cols.trans second.cols,
    fun plain => second.plain (first.plain plain)⟩

/-- A sheet that is alike is kept. -/
theorem Alike.kept (alike : Alike left right) : Kept left right :=
  ⟨alike.rows, alike.cols, alike.isPlain⟩

/-- Replacing a content keeps a sheet. -/
theorem kept_setContent {content : String}
    (done : sheet.setContent address content = .ok changed) : Kept sheet changed := by
  obtain ⟨rows, cols⟩ := size_modify done
  exact ⟨rows.symm, cols.symm, fun plain => plain.setContent done⟩

/-- An action that is not refused keeps the sheet. -/
theorem kept_act {action : Action} (done : sheet.act action = .ok changed) :
    Kept sheet changed := by
  -- Contents are written at some address, and all else is to recalculate.
  cases action with
  | setContent address content => exact kept_setContent done
  | setNamed name content =>
    -- The name is that of an address, and the rest is to replace a content there.
    obtain ⟨address, _, written⟩ := exists_ok_of_bind done
    exact kept_setContent written
  | clear address =>
    have done : sheet.modify address (fun _ => Cell.empty) = .ok changed := done
    obtain ⟨rows, cols⟩ := size_modify done
    exact ⟨rows.symm, cols.symm, fun plain => plain.modify done fun _ _ => rfl⟩
  | calculate maxReads =>
    obtain rfl := Except.ok.inj done
    exact (sheet.alike_calculate maxReads).kept
  | evaluateCell address =>
    obtain ⟨⟨text, after⟩, evaluated, rfl⟩ := exists_ok_of_map done
    exact (alike_evaluateCell evaluated).kept
  | setAndCalculate address content =>
    -- A content is written first, and then the sheet is recalculated.
    obtain ⟨outcome, performed, rfl⟩ := exists_ok_of_map done
    obtain ⟨after, written, calculated⟩ := exists_ok_of_bind performed
    obtain rfl := Except.ok.inj calculated
    exact (kept_setContent written).trans (after.alike_calculate _).kept

/-- Actions keep the sheet that they are done to. -/
theorem kept_acts (sheet : Sheet) (actions : List Action) : Kept sheet (sheet.acts actions) := by
  -- The induction goes from one action to those after it.
  induction actions generalizing sheet with
  | nil => exact (Alike.refl sheet).kept
  | cons action rest ih =>
    have one : Kept sheet ((sheet.act action).toOption.getD sheet) := by
      -- An action that is refused changes nothing.
      cases done : sheet.act action with
      | error fault => exact (Alike.refl sheet).kept
      | ok changed => exact kept_act done
    exact one.trans (ih _)

/-- Whatever has been done to two sheets of one size, a recalculation gives the same sheet and the
same tally if the cells hold the same contents by then, and a second one changes nothing. -/
theorem calculate_acts_eq (rows cols : UInt32) (first second : List Action) (maxReads : Nat)
    (contents : ∀ address,
      (((ofSize rows cols).acts first).cellAt? address).map Cell.content =
        (((ofSize rows cols).acts second).cellAt? address).map Cell.content) :
    ((ofSize rows cols).acts first).calculate maxReads =
        ((ofSize rows cols).acts second).calculate maxReads ∧
      (((ofSize rows cols).acts first).calculate maxReads).1.calculate maxReads =
        ((ofSize rows cols).acts first).calculate maxReads := by
  -- Both sheets are plain, so with the same contents they differ only in what formulas show.
  have one := kept_acts (ofSize rows cols) first
  have other := kept_acts (ofSize rows cols) second
  have plain := plain_ofSize rows cols
  have alike := alike_of_contents (one.rows.symm.trans other.rows) (one.cols.symm.trans other.cols)
    (one.plain plain) (other.plain plain) contents
  exact ⟨alike.calculate maxReads, calculate_calculate _ maxReads⟩

/-- Entering a reference and then the text that it refers to. -/
def entering : List Action := [.setContent ⟨1, 1⟩ "=B1", .setNamed "B1" "x"]

/-- The same with another text cleared away first, and then a text refused and all computed, so that
the reference shows something already. -/
def computing : List Action :=
  [.setContent ⟨1, 2⟩ "y", .clear ⟨1, 2⟩, .setContent ⟨1, 1⟩ "=B1", .setNamed "B1" "x",
    .setNamed "C7" "z"] ++ [.calculate 3]

/-- Recalculating after both histories gives the same. -/
theorem calculate_acts_entering :
    (∀ address, (((ofSize 1 2).acts entering).cellAt? address).map Cell.content =
        (((ofSize 1 2).acts computing).cellAt? address).map Cell.content) ∧
      ((ofSize 1 2).acts entering).calculate 5 = ((ofSize 1 2).acts computing).calculate 5 ∧
      (((ofSize 1 2).acts entering).calculate 5).1.calculate 5 =
        ((ofSize 1 2).acts entering).calculate 5 := by
  -- Up to the first recalculation the sheets are even equal, and that one leaves the contents.
  have same : ((ofSize 1 2).acts entering).Alike ((ofSize 1 2).acts computing) :=
    alike_calculate ((ofSize 1 2).acts entering) 3
  exact ⟨same.contents, calculate_acts_eq 1 2 entering computing 5 same.contents⟩

end Sheet

end Spreadsheet
