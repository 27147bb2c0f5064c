import Spreadsheet.Formula
import Spreadsheet.Graph.Schedule
import Spreadsheet.Sheet.Basic

/-! Recalculation: every formula of a sheet is computed once a pass, in the order of the schedule or
as soon as another formula reads it. -/

namespace Spreadsheet

open Formula (Depth EvalFault Fault Read Scope)

/-- A pass under way: the sheet so far, the cells settled in this pass, and how many cells were
computed and how many show a fault. -/
structure Pass where
  sheet : Sheet
  settled : List Address
  calculated : Nat
  errors : Nat

/-- What a pass has done. -/
structure Tally where
  formulas : Nat
  calculated : Nat
  errors : Nat
  circular : Nat
  deriving DecidableEq

namespace Pass

/-- A pass over a sheet before anything is settled. -/
def start (sheet : Sheet) : Pass := ⟨sheet, [], 0, 0⟩

/-- Whether a cell is settled. -/
def isSettled (pass : Pass) (address : Address) : Bool :=
  pass.settled.contains address

/-- Settles a cell with what it shows from now on. -/
def settle (pass : Pass) (address : Address) (display : String) : Pass :=
  let sheet :=
    match pass.sheet.setDisplay address display with
    | .ok sheet => sheet
    | .error _ => pass.sheet
  { pass with sheet, settled := address :: pass.settled }

/-- Settles a cell on a cycle of references. -/
def settleCircular (pass : Pass) (address : Address) : Pass :=
  let pass := pass.settle address Formula.circularMarker
  { pass with errors := pass.errors + 1 }

/-- What a cell shows, as an answer to a formula. -/
def textAt (pass : Pass) (address : Address) : Except EvalFault String :=
  match pass.sheet.cellAt address with
  | .ok cell => .ok cell.display
  | .error _ => .error .outsideGrid

/-- Settles a computed cell; when the ceilings stop a computation that another one asked for, the
other is told and nothing is settled. -/
def conclude (pass : Pass) (address : Address) (reads : Nat) (result : Except Fault String) :
    Except EvalFault String × Pass :=
  let store (display : String) (errors : Nat) : Except EvalFault String × Pass :=
    let pass := pass.settle address display
    (.ok display,
      { pass with calculated := pass.calculated + 1, errors := pass.errors + errors })
  match result with
  | .ok text => store text 0
  | .error fault =>
    if fault = .eval .circular ∧ 0 < reads then (.error .circular, pass)
    else store fault.marker 1

/-- Computes a cell from a depth and settles it; formulas it reads are computed first. -/
def compute (maxReads : Nat) (address : Address) (depth : Depth) (pass : Pass) :
    Except EvalFault String × Pass :=
  match pass.sheet.source? address with
  | none => (pass.textAt address, pass)
  | some source =>
    let scope : Scope := ⟨address, Formula.Builtin.registry, maxReads⟩
    -- Expressions in progress grow with every read, so the ceiling on them ends the recursion.
    let (ended, pass) := (Formula.evaluateSource scope source depth).runWithin
      (fun read => read.Below depth ∧ depth.nodes < read.depth.nodes)
      (fun read _ pass =>
        if !pass.sheet.contains read.address then (.error .outsideGrid, pass)
        else if pass.sheet.isFormula read.address && !pass.isSettled read.address then
          compute maxReads read.address read.depth pass
        else (pass.textAt read.address, pass))
      (Formula.evaluateSource_reads_below scope source depth) pass
    pass.conclude address depth.reads (Formula.displayed ended.1)
  termination_by Formula.maxNodes - depth.nodes
  decreasing_by
    have within := ‹read.Below depth ∧ depth.nodes < read.depth.nodes›
    exact Nat.sub_lt_sub_left (Nat.lt_of_lt_of_le within.2 within.1.bounded) within.2

/-- Answers a formula's request for a text: a formula that is not settled is computed first. -/
def answer (maxReads : Nat) (read : Read) (pass : Pass) : Except EvalFault String × Pass :=
  if !pass.sheet.contains read.address then (.error .outsideGrid, pass)
  else if pass.sheet.isFormula read.address && !pass.isSettled read.address then
    pass.compute maxReads read.address read.depth
  else (pass.textAt read.address, pass)

/-- To compute a formula is to run its evaluation, answering requests, and to settle the outcome. -/
theorem compute_eq (maxReads : Nat) (address : Address) (depth : Depth) (pass : Pass) :
    compute maxReads address depth pass =
      match pass.sheet.source? address with
      | none => (pass.textAt address, pass)
      | some source =>
        let scope : Scope := ⟨address, Formula.Builtin.registry, maxReads⟩
        let (ended, pass) := (Formula.evaluateSource scope source depth).run (answer maxReads) pass
        pass.conclude address depth.reads (Formula.displayed ended.1) := by
  -- The answerer makes no use of being told that requests lie deeper.
  rw [compute]
  split
  · rfl
  · exact congrArg (fun outcome : (Except Fault Value × Depth) × Pass =>
      outcome.2.conclude address depth.reads (Formula.displayed outcome.1.1))
      (Formula.Reading.runWithin_eq_run _ _)

/-- Computes a cell on its own, unless it is settled. -/
def visit (maxReads : Nat) (pass : Pass) (address : Address) : Pass :=
  if pass.isSettled address then pass
  else (pass.compute maxReads address ⟨0, 0⟩).2

end Pass

namespace Sheet

/-- Which formulas of a sheet refer to which cells of its grid. -/
def graph (sheet : Sheet) : Graph :=
  sheet.formulas.foldl (fun graph (address, source) =>
    graph.insert address ((Formula.references source).filter sheet.contains)) Graph.empty

/-- Computes all formulas of a sheet: cells on cycles are marked, and the others follow in order. -/
def calculate (sheet : Sheet) (maxReads : Nat) : Sheet × Tally :=
  let graph := sheet.graph
  if graph.isEmpty then (sheet, ⟨0, 0, 0, 0⟩)
  else
    let schedule := graph.schedule
    let marked := schedule.cyclic.foldl Pass.settleCircular (Pass.start sheet)
    let pass := schedule.order.foldl (Pass.visit maxReads) marked
    (pass.sheet, ⟨graph.size, pass.calculated, pass.errors, schedule.cyclic.length⟩)

/-- Computes one cell and the formulas it reads, and gives what it shows. -/
def evaluateCell (sheet : Sheet) (address : Address) : Except SheetFault (String × Sheet) :=
  if sheet.isFormula address then
    let (text, pass) := (Pass.start sheet).compute Formula.defaultMaxReads address ⟨0, 0⟩
    match text with
    | .ok text => .ok (text, pass.sheet)
    | .error fault => .ok ((Fault.eval fault).marker, pass.sheet)
  else return ((← sheet.cellAt address).display, sheet)

/-- Replaces the content of a cell and computes all formulas. -/
def setAndCalculate (sheet : Sheet) (address : Address) (content : String) :
    Except SheetFault (Sheet × Tally) := do
  let sheet ← sheet.setContent address content
  return sheet.calculate Formula.defaultMaxReads

end Sheet

end Spreadsheet
