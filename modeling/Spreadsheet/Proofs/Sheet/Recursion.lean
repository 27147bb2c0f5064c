import Spreadsheet.Proofs.Formula.Lexemes
import Spreadsheet.Proofs.Formula.Room
import Spreadsheet.Proofs.Sheet.Calls

/-! How deep computations are nested in one another: both counters of the depth keep below their
ceilings, one never overtakes the other, and so every recalculation ends. -/

namespace Spreadsheet

open Formula (Depth EvalFault Fault Read Reading maxNodes)

namespace Formula

namespace Reading

variable {Request α σ : Type} {P : Request → Prop} {Q : α → Prop} {reading : Reading Request α}
  {answer : Request → σ → Except EvalFault String × σ}

/-- Runs a computation with an answerer that may come to no answer, as the run then does too. -/
def runSome (may : Request → σ → Option (Except EvalFault String × σ)) :
    Reading Request α → σ → Option (α × σ)
  | .done result, state => some (result, state)
  | .ask request next, state => do
    let (text, state) ← may request state
    (next text).runSome may state

/-- A run whose requests are all answered comes to its end. -/
theorem runSome_eq_run {may : Request → σ → Option (Except EvalFault String × σ)}
    (holds : reading.Holds P Q)
    (answers : ∀ request state, P request → may request state = some (answer request state))
    (state : σ) : reading.runSome may state = some (reading.run answer state) := by
  -- The two runs stay together, as every request is answered alike.
  induction reading generalizing state with
  | done result => rfl
  | ask request next ih =>
    have answered := answers request state holds.1
    simp only [runSome, run_ask, answered, Option.bind_eq_bind, Option.bind_some]
    exact ih _ (holds.2 _) _

end Reading

/-- The ceiling on reads lets a course ask one read further, and only below it. -/
theorem Course.holds_bounded_reads {α : Type} (stop : α) (maxReads : Nat) (depth : Depth)
    (course : Course α) : (course.bounded stop maxReads depth).Holds
      (fun read => read.depth.reads = depth.reads + 1 ∧ read.depth.reads ≤ maxReads)
      fun _ => True := by
  -- The counter of reads is back where it was after each of them.
  induction course with
  | done result => trivial
  | enter level rest ih =>
    simp only [bounded]
    split
    · trivial
    · exact ih
  | ask address level next ih =>
    simp only [bounded]
    split
    · trivial
    · rename_i room
      exact ⟨⟨rfl, Nat.lt_of_not_le room⟩, ih⟩

/-- A read is made from a depth: it is one read further and deeper in expressions, and both are
allowed by their ceilings. -/
structure Read.From (maxReads : Nat) (depth : Depth) (read : Read) : Prop where
  reads : read.depth.reads = depth.reads + 1
  allowed : read.depth.reads ≤ maxReads
  deeper : depth.nodes < read.depth.nodes
  bounded : read.depth.nodes ≤ maxNodes

/-- A depth below both ceilings at which every read in progress is within an expression of its own
in progress. -/
structure Depth.Steady (maxReads : Nat) (depth : Depth) : Prop where
  reads : depth.reads ≤ maxReads
  shared : depth.reads ≤ depth.nodes
  nodes : depth.nodes ≤ maxNodes

/-- Nothing is in progress at first. -/
theorem Depth.Steady.start (maxReads : Nat) : Depth.Steady maxReads ⟨0, 0⟩ :=
  ⟨Nat.zero_le _, Nat.le_refl _, Nat.zero_le _⟩

/-- A read keeps a depth steady: one expression more is entered for it, at least. -/
theorem Read.From.steady {maxReads : Nat} {depth : Depth} {read : Read}
    (made : read.From maxReads depth) (steady : depth.Steady maxReads) :
    read.depth.Steady maxReads := by
  obtain ⟨reads, allowed, deeper, bounded⟩ := made
  have shared := steady.shared
  exact ⟨allowed, by omega, bounded⟩

end Formula

namespace Pass.Call

variable {maxReads : Nat} {call outer inner : Call} {read : Read}

/-- The evaluation of a formula makes its reads from where it starts. -/
theorem evaluation_from (maxReads : Nat) (call : Call) (source : String) :
    (call.evaluation maxReads source).Holds (Read.From maxReads call.depth) fun _ => True := by
  -- The ceiling on reads bounds one counter, and every expression counts on the other.
  rw [evaluation_eq]
  have reads := Formula.Course.holds_bounded_reads (.error (.eval .circular)) maxReads call.depth
    (Formula.textCourse call.address Formula.Builtin.registry source)
  have nodes := attempt_deeper maxReads call.address source call.depth
  exact (reads.and nodes).mono
    (fun read both => ⟨both.1.1, both.1.2, both.2.1, both.2.2⟩) fun _ _ => trivial

/-- A computation asks for the text of a cell in the course of its evaluation. -/
def Asks (maxReads : Nat) (call : Call) (read : Read) : Prop :=
  ∃ source after, call.pass.sheet.source? call.address = some source ∧
    (call.evaluation maxReads source).Meets (answer maxReads) call.pass read after

/-- A computation asks for the cells of the computations that it starts. -/
theorem Starts.asks (starts : outer.Starts maxReads inner) :
    outer.Asks maxReads ⟨inner.address, inner.depth⟩ := by
  obtain ⟨source, formula, meets, _⟩ := starts
  exact ⟨source, inner.pass, formula, meets⟩

/-- What a computation asks for it asks for from its own depth. -/
theorem Asks.from (asks : call.Asks maxReads read) : read.From maxReads call.depth := by
  obtain ⟨source, after, _, meets⟩ := asks
  exact (call.evaluation_from maxReads source).of_meets meets

/-- A computation within one from a steady depth starts from a steady depth too. -/
theorem steady_of_within (steady : outer.depth.Steady maxReads)
    (within : Relation.ReflTransGen (Starts maxReads) outer inner) :
    inner.depth.Steady maxReads := by
  -- Each computation on the way in starts at the depth of a read.
  induction within with
  | refl => exact steady
  | tail _ starts ih => exact starts.asks.from.steady ih

/-- Computations in progress within one another are one read deeper each. -/
theorem length_le_of_chain {within : List Call} (steady : outer.depth.Steady maxReads)
    (chain : List.IsChain (Starts maxReads) (outer :: within)) :
    outer.depth.reads + within.length ≤ min maxReads maxNodes := by
  -- The induction goes inwards, and the innermost computation still starts from a steady depth.
  induction within generalizing outer with
  | nil =>
    have ⟨reads, shared, nodes⟩ := steady
    simp only [List.length_nil]
    omega
  | cons inner within ih =>
    obtain ⟨starts, rest⟩ := List.isChain_cons_cons.mp chain
    have made := starts.asks.from
    have less := ih (made.steady steady) rest
    have deeper : inner.depth.reads = outer.depth.reads + 1 := made.reads
    simp only [List.length_cons]
    omega

/-- Answers a request for a text, with some way to compute formulas that may come to no end. -/
def answerSome (compute : Call → Option (Except EvalFault String × Pass)) (read : Read)
    (pass : Pass) : Option (Except EvalFault String × Pass) :=
  if !pass.sheet.contains read.address then some (.error .outsideGrid, pass)
  else if pass.sheet.isFormula read.address && !pass.isSettled read.address then
    compute ⟨read.address, read.depth, pass⟩
  else some (pass.textAt read.address, pass)

/-- A request is answered if the computation that it may need comes to its end. -/
theorem answerSome_eq_answer {compute : Call → Option (Except EvalFault String × Pass)}
    {pass : Pass} (computes : compute ⟨read.address, read.depth, pass⟩ =
      some (pass.compute maxReads read.address read.depth)) :
    answerSome compute read pass = some (answer maxReads read pass) := by
  unfold answerSome answer
  split
  · rfl
  split
  · exact computes
  · rfl

/-- A computation with so many levels to nest computations in, its own included. It recurs on the
levels alone, whatever the depth, and comes to nothing where it would need one level more. -/
def endingWithin (maxReads : Nat) : Nat → Call → Option (Except EvalFault String × Pass)
  | 0, _ => none
  | levels + 1, call =>
    match call.pass.sheet.source? call.address with
    | none => some (call.pass.textAt call.address, call.pass)
    | some source => do
      let (result, pass) ← (call.evaluation maxReads source).runSome
        (answerSome (endingWithin maxReads levels)) call.pass
      return pass.conclude call.address call.depth.reads result

/-- A computation from a steady depth needs no more levels than there is room for reads below. -/
theorem endingWithin_eq_some {levels : Nat} (steady : call.depth.Steady maxReads)
    (room : min maxReads maxNodes < call.depth.reads + levels) :
    call.endingWithin maxReads levels = some (call.ending maxReads) := by
  -- Every level of nesting is for a read, so the induction uses up levels and room alike.
  induction levels generalizing call with
  | zero =>
    -- Reads in progress are below both ceilings, so there is always a level left to come to.
    obtain ⟨reads, shared, nodes⟩ := steady
    omega
  | succ levels ih =>
    cases formula : call.pass.sheet.source? call.address with
    | none => simp only [endingWithin, ending, compute_eq, formula]
    | some source =>
      have answers : ∀ read pass, read.From maxReads call.depth →
          answerSome (endingWithin maxReads levels) read pass =
            some (answer maxReads read pass) := by
        -- A formula that is asked for is computed a read further down, with a level less.
        intro read pass made
        have deeper := made.reads
        apply answerSome_eq_answer
        apply ih (made.steady steady)
        dsimp only
        omega
      have ran := Reading.runSome_eq_run (call.evaluation_from maxReads source) answers call.pass
      simp only [endingWithin, formula, ran, ending_eq formula, Option.bind_eq_bind,
        Option.bind_some, Option.pure_def]

/-- A computation that starts when nothing is in progress ends, whatever pass it is made in. -/
theorem endingWithin_alone (maxReads : Nat) (address : Address) (pass : Pass) :
    (⟨address, ⟨0, 0⟩, pass⟩ : Call).endingWithin maxReads (min maxReads maxNodes + 1) =
      some (pass.compute maxReads address ⟨0, 0⟩) :=
  endingWithin_eq_some (.start maxReads) (by dsimp only; omega)

end Pass.Call

namespace Pass

/-- Visits a cell with computations nested so many levels deep at most. -/
def visitWithin (maxReads levels : Nat) (pass : Pass) (address : Address) : Option Pass :=
  if pass.isSettled address then some pass
  else (Call.endingWithin maxReads levels ⟨address, ⟨0, 0⟩, pass⟩).map Prod.snd

/-- Visits in turn end if one level is allowed beside those that the ceilings leave room for. -/
theorem visitsWithin_eq_some (maxReads : Nat) (cells : List Address) (pass : Pass) :
    cells.foldlM (visitWithin maxReads (min maxReads maxNodes + 1)) pass =
      some (cells.foldl (visit maxReads) pass) := by
  induction cells generalizing pass with
  | nil => rfl
  | cons address cells ih =>
    -- Each visit starts with nothing in progress, whatever the ones before it have done.
    have one : visitWithin maxReads (min maxReads maxNodes + 1) pass address =
        some (pass.visit maxReads address) := by
      unfold visitWithin visit
      split
      · rfl
      · rw [Call.endingWithin_alone, Option.map_some]
    rw [List.foldlM_cons, one, Option.bind_eq_bind, Option.bind_some, List.foldl_cons]
    exact ih _

end Pass

namespace Sheet

/-- A computation that is made when no other one is in progress: one in the order of a
recalculation, or the only one that is asked for. -/
inductive Begins (sheet : Sheet) : Nat → Pass.Call → Prop where
  | visit {maxReads : Nat} {call : Pass.Call} (visits : sheet.Visits maxReads call) :
    Begins sheet maxReads call
  | alone {address : Address} (formula : sheet.isFormula address = true) :
    Begins sheet Formula.defaultMaxReads ⟨address, ⟨0, 0⟩, Pass.start sheet⟩

variable {sheet : Sheet} {maxReads : Nat} {outermost : Pass.Call}

/-- Where no other computation is in progress, there are no reads and no expressions either. -/
theorem Begins.depth_eq (begins : sheet.Begins maxReads outermost) :
    outermost.depth = ⟨0, 0⟩ := by
  cases begins with
  | visit visits =>
    obtain ⟨_, _, _, depth, _⟩ := visits
    exact depth
  | alone => rfl

/-- Whatever the formulas of a sheet read, their own cells included, and whatever the ceiling on
reads, every read is within an expression of its own and below both ceilings. So no more
computations than that are ever in progress at once, and all of them come to an end. -/
theorem recursion_bounded (sheet : Sheet) (maxReads : Nat) :
    (∀ outermost, sheet.Begins maxReads outermost →
      -- Every request for a text, made by the outermost computation or by one within it.
      (∀ call read, Relation.ReflTransGen (Pass.Call.Starts maxReads) outermost call →
        call.Asks maxReads read →
        1 ≤ read.depth.reads ∧ read.depth.reads ≤ min maxReads maxNodes ∧
          read.depth.reads ≤ read.depth.nodes ∧ read.depth.nodes ≤ maxNodes) ∧
      -- Computations in progress, each started by the one before.
      (∀ within, List.IsChain (Pass.Call.Starts maxReads) (outermost :: within) →
        (outermost :: within).length ≤ min maxReads maxNodes + 1) ∧
      outermost.endingWithin maxReads (min maxReads maxNodes + 1) =
        some (outermost.ending maxReads)) ∧
    -- All computations of a recalculation, one after the other.
    ∃ pass, sheet.graph.schedule.order.foldlM
        (Pass.visitWithin maxReads (min maxReads maxNodes + 1)) sheet.marking = some pass ∧
      (sheet.calculate maxReads).1 = pass.sheet := by
  constructor
  · intro outermost begins
    have depth := begins.depth_eq
    -- Every depth that is reached from the outermost one is steady, which bounds its counts.
    have steady : outermost.depth.Steady maxReads := depth ▸ .start maxReads
    refine ⟨fun call read within asks => ?_, fun within chain => ?_, ?_⟩
    · -- The computation that asks has a steady depth, and reading keeps it steady.
      have made := asks.from
      obtain ⟨reads, shared, nodes⟩ :=
        made.steady (Pass.Call.steady_of_within steady within)
      have deeper := made.reads
      exact ⟨by omega, by omega, shared, nodes⟩
    · have length := Pass.Call.length_le_of_chain steady chain
      simp only [List.length_cons]
      omega
    · apply Pass.Call.endingWithin_eq_some steady
      simp only [depth]
      omega
  · exact ⟨sheet.recalculation maxReads, Pass.visitsWithin_eq_some _ _ _, by rw [calculate_eq]⟩

/-- A row of three cells: the one in the middle adds up the row, and reads itself in doing so. -/
def selfReader : Sheet := ⟨1, 3, #[⟨"", ""⟩, ⟨"=sum(A1..C1)", ""⟩, ⟨"", ""⟩], rfl⟩

/-- The expression of the cell in the middle. -/
theorem parse_selfReader :
    Formula.parseSource "sum(A1..C1)" = .ok (.call "sum" [.range "A1" "C1"]) := by
  have cut : Formula.pieces "sum(A1..C1)".toList =
      [.token (.plain .identifier "sum".toList), .token (.plain .parenLeft ['(']),
        .token (.plain .cell ['A', '1']), .token (.plain .dotDot ['.', '.']),
        .token (.plain .cell ['C', '1']), .token (.plain .parenRight [')'])] :=
    Formula.pieces_cons rfl <| Formula.pieces_cons rfl <| Formula.pieces_cons rfl <|
      Formula.pieces_cons rfl <| Formula.pieces_cons rfl <| Formula.pieces_cons rfl
      Formula.pieces_nil
  rw [Formula.parseSource, Formula.tokenize_of_pieces cut rfl rfl]
  rfl

/-- The cell in the middle asks for the one before it and then for itself. -/
theorem starts_selfReader :
    (⟨⟨1, 2⟩, ⟨0, 0⟩, Pass.start selfReader⟩ : Pass.Call).Starts 128
      ⟨⟨1, 2⟩, ⟨1, 1⟩, Pass.start selfReader⟩ := by
  -- The first cell shows nothing, which is passed over, and the second one is the cell itself.
  refine ⟨"sum(A1..C1)", by decide, ?_, by decide, by decide⟩
  rw [Pass.Call.evaluation, Formula.evaluateSource, parse_selfReader]
  exact .later (.here _ _ _)

/-- A cell that reads itself is computed within itself, but only so many times. -/
theorem recursion_bounded_selfReader :
    selfReader.Begins 128 ⟨⟨1, 2⟩, ⟨0, 0⟩, Pass.start selfReader⟩ ∧
      (⟨⟨1, 2⟩, ⟨0, 0⟩, Pass.start selfReader⟩ : Pass.Call).Starts 128
        ⟨⟨1, 2⟩, ⟨1, 1⟩, Pass.start selfReader⟩ ∧
      (∀ within, List.IsChain (Pass.Call.Starts 128)
          (⟨⟨1, 2⟩, ⟨0, 0⟩, Pass.start selfReader⟩ :: within) →
        (⟨⟨1, 2⟩, ⟨0, 0⟩, Pass.start selfReader⟩ :: within).length ≤ 129) ∧
      Pass.Call.endingWithin 128 129 ⟨⟨1, 2⟩, ⟨0, 0⟩, Pass.start selfReader⟩ =
        some ((Pass.start selfReader).compute 128 ⟨1, 2⟩ ⟨0, 0⟩) := by
  have begins : selfReader.Begins 128 ⟨⟨1, 2⟩, ⟨0, 0⟩, Pass.start selfReader⟩ :=
    .alone (by decide)
  obtain ⟨_, chains, ends⟩ := (recursion_bounded selfReader 128).1 _ begins
  exact ⟨begins, starts_selfReader, chains, ends⟩

end Sheet

end Spreadsheet
