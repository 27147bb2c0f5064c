import Spreadsheet.Proofs.Sheet.Fixpoint

/-! The computations of a recalculation and which of them start from within others: one of a formula
that another one is still busy with is given up. -/

namespace Spreadsheet

open Formula (Builtin.registry Course Depth EvalFault Fault Read Reading maxNodes)

namespace Formula.Reading

variable {Request α σ : Type} {answer : Request → σ → Except EvalFault String × σ}

/-- The run of a computation from a state makes a request in another state. -/
inductive Meets (answer : Request → σ → Except EvalFault String × σ) :
    Reading Request α → σ → Request → σ → Prop where
  | here (request : Request) (next : Except EvalFault String → Reading Request α) (state : σ) :
    Meets answer (.ask request next) state request state
  | later {request other : Request} {next : Except EvalFault String → Reading Request α}
    {state after : σ} (meets : Meets answer (next (answer request state).1)
      (answer request state).2 other after) : Meets answer (.ask request next) state other after

/-- A computation that is done makes no request. -/
theorem not_meets_done {result : α} {state after : σ} {request : Request} :
    ¬ Meets answer (.done result) state request after := by
  intro meets
  cases meets

/-- A computation that asks makes its own request, and those that are made once it is answered. -/
theorem meets_ask_iff {request other : Request} {next : Except EvalFault String → Reading Request α}
    {state after : σ} : Meets answer (.ask request next) state other after ↔
      (other = request ∧ after = state) ∨
        Meets answer (next (answer request state).1) (answer request state).2 other after := by
  -- The two ways to meet a request are the two constructors.
  constructor
  · intro meets
    cases meets with
    | here => exact .inl ⟨rfl, rfl⟩
    | later meets => exact .inr meets
  · intro either
    rcases either with ⟨rfl, rfl⟩ | meets
    · exact .here _ _ _
    · exact .later meets

/-- A request that a run makes is as all requests of the computation are. -/
theorem Holds.of_meets {P : Request → Prop} {Q : α → Prop} {reading : Reading Request α}
    {request : Request} {state after : σ} (holds : reading.Holds P Q)
    (meets : reading.Meets answer state request after) : P request := by
  induction meets with
  | here => exact holds.1
  | later _ ih => exact ih (holds.2 _)

/-- Where answers keep an invariant, what a run requests is one of the requests of the computation,
and the invariant holds when it is made. -/
theorem Meets.invariant {invariant : σ → Prop} {P : Request → Prop} {Q : α → Prop}
    {reading : Reading Request α} {request : Request} {state after : σ}
    (meets : Meets answer reading state request after) (holds : reading.Holds P Q)
    (answers : ∀ request state, P request → invariant state → invariant (answer request state).2)
    (start : invariant state) : P request ∧ invariant after := by
  induction meets with
  | here => exact ⟨holds.1, start⟩
  | later _ ih => exact ih (holds.2 _) (answers _ _ holds.1 start)

end Formula.Reading

namespace Pass

/-- A computation of a cell: the depth it starts from, and the pass as it is then. -/
structure Call where
  address : Address
  depth : Depth
  pass : Pass

namespace Call

variable {maxReads : Nat} {busy : Set Address} {call outer inner : Call}

/-- What the computation of a formula evaluates: its source, up to the text that is shown. -/
def evaluation (maxReads : Nat) (call : Call) (source : String) :
    Reading Read (Except Fault String) :=
  (Formula.evaluateSource ⟨call.address, Builtin.registry, maxReads⟩ source call.depth).bind
    fun ended => .done (Formula.displayed ended.1)

/-- A computation starts another one: its evaluation asks for a formula that is not settled. -/
def Starts (maxReads : Nat) (outer inner : Call) : Prop :=
  ∃ source, outer.pass.sheet.source? outer.address = some source ∧
    (outer.evaluation maxReads source).Meets (answer maxReads) outer.pass
      ⟨inner.address, inner.depth⟩ inner.pass ∧
    inner.pass.sheet.isFormula inner.address = true ∧
    inner.pass.isSettled inner.address = false

/-- What a computation comes to: the answer to who has asked for it, and the pass afterwards. -/
def ending (maxReads : Nat) (call : Call) : Except EvalFault String × Pass :=
  call.pass.compute maxReads call.address call.depth

/-- A computation as the specification of computing a cell requires it, within computations of
other cells that wait for it. -/
structure Fits (maxReads : Nat) (busy : Set Address) (call : Call) : Prop where
  sound : Sound maxReads call.pass
  unknown : call.pass.known call.address = none
  inner : call.address ∈ busy → 0 < call.depth.reads
  hang : Hang maxReads call.pass busy (insert call.address busy)

/-- A computation is the one that a read asks for. -/
theorem eq_of_read {read : Read} {pass : Pass}
    (same : (⟨call.address, call.depth⟩ : Read) = read) (stays : call.pass = pass) :
    call = ⟨read.address, read.depth, pass⟩ := by
  subst same stays
  rfl

/-- A computation of a formula that is not known fits where no other one is under way. -/
theorem Fits.alone {pass : Pass} {address : Address} (sound : Sound maxReads pass)
    (unknown : pass.known address = none) : Fits maxReads ∅ ⟨address, ⟨0, 0⟩, pass⟩ :=
  ⟨sound, unknown, (fun member => nomatch member), fun _ member => nomatch member⟩

/-- What the computation of a formula evaluates is the computation that it has at that depth. -/
theorem evaluation_eq (maxReads : Nat) (call : Call) (source : String) :
    call.evaluation maxReads source = attempt maxReads call.address source call.depth :=
  Formula.displayed_evaluateSource ⟨call.address, Builtin.registry, maxReads⟩
    Formula.Builtin.registry_passesOn source call.depth

/-- To compute a formula is to run its evaluation and to settle what comes of it. -/
theorem ending_eq {source : String} (formula : call.pass.sheet.source? call.address = some source) :
    call.ending maxReads =
      ((call.evaluation maxReads source).run (answer maxReads) call.pass).2.conclude call.address
        call.depth.reads ((call.evaluation maxReads source).run (answer maxReads) call.pass).1 := by
  rw [evaluation_eq]
  exact compute_of_source formula call.depth

/-- What comes of a computation that fits. -/
theorem Fits.computed (fits : call.Fits maxReads busy) :
    Computed maxReads busy call.address call.depth call.pass (call.ending maxReads) :=
  compute_spec fits.sound fits.unknown fits.inner fits.hang

/-- When the formula that a computation asks for has been computed, the computation is given up with
it or goes on. -/
theorem stopped_or_going {address here : Address} {source : String} {depth : Depth} {level : Nat}
    {next : Except EvalFault String → Course (Except Fault String)} {pass : Pass}
    (going : Going maxReads busy address source depth (.ask here level next) pass)
    (room : ¬ maxReads ≤ depth.reads) (found : pass.known here = none) :
    let outcome := pass.compute maxReads here ⟨depth.reads + 1, depth.nodes + level⟩
    next outcome.1 = .done (.error (.eval .circular)) ∨
      Going maxReads busy address source depth (next outcome.1) outcome.2 := by
  intro outcome
  have first : Fits maxReads (insert address busy)
      ⟨here, ⟨depth.reads + 1, depth.nodes + level⟩, pass⟩ :=
    ⟨going.sound, found, fun _ => Nat.succ_pos _, going.hangs room found⟩
  have computed : Computed maxReads (insert address busy) here
      ⟨depth.reads + 1, depth.nodes + level⟩ pass outcome := first.computed
  obtain ⟨grows, sound, unsettled, ended⟩ := computed
  -- A computation that gives no text was circular, and the one that asks for it ends likewise.
  rcases ended with ⟨circular, _⟩ | ⟨text, settled, known⟩
  · exact .inl (circular ▸ going.passes.1)
  · exact .inr (settled ▸ going.answered room found grows sound unsettled known)

/-- The computations that are started by one under way fit, as they are what it waits for. -/
theorem fits_of_meets {address : Address} {source : String} {depth : Depth}
    {course : Course (Except Fault String)} {pass : Pass}
    (going : Going maxReads busy address source depth course pass)
    (meets : (course.bounded (.error (.eval .circular)) maxReads depth).Meets (answer maxReads) pass
      ⟨inner.address, inner.depth⟩ inner.pass)
    (unknown : inner.pass.known inner.address = none) :
    inner.Fits maxReads (insert address busy) ∧ 0 < inner.depth.reads := by
  -- The induction follows the course up to the request.
  induction course generalizing pass with
  | done result => exact absurd meets Reading.not_meets_done
  | enter level rest ih =>
    simp only [Course.bounded] at meets
    split at meets
    · exact absurd meets Reading.not_meets_done
    · rename_i room
      exact ih (going.enter room) meets
  | ask here level next ih =>
    simp only [Course.bounded] at meets
    split at meets
    · exact absurd meets Reading.not_meets_done
    · rename_i room
      let request : Read := ⟨here, ⟨depth.reads + 1, depth.nodes + level⟩⟩
      rcases Reading.meets_ask_iff.mp meets with ⟨same, stays⟩ | later
      · -- This is the request.
        obtain rfl := eq_of_read same stays
        exact ⟨⟨going.sound, unknown, fun _ => Nat.succ_pos _, going.hangs room unknown⟩,
          Nat.succ_pos _⟩
      · cases found : pass.known here with
        | some text =>
          rw [answer_of_known request found] at later
          exact ih text (going.known room found) later
        | none =>
          -- Another computation is started first, and the request is made after its end.
          rw [answer_of_unknown request found] at later
          rcases stopped_or_going going room found with stopped | further
          · rw [stopped] at later
            exact absurd later Reading.not_meets_done
          · exact ih _ further later

/-- What comes of running a computation that is under way. -/
theorem ran_of_going {address : Address} {source : String} {depth : Depth} {pass : Pass}
    {course : Course (Except Fault String)}
    (going : Going maxReads busy address source depth course pass) :
    Ran maxReads busy address source pass
      ((course.bounded (.error (.eval .circular)) maxReads depth).run (answer maxReads) pass) :=
  run_spec (fun _ reads _ sound unknown hang =>
    compute_spec sound unknown (fun _ => reads) hang) going

/-- What comes of running a computation that fits. -/
theorem Fits.ran {source : String} (fits : call.Fits maxReads busy)
    (formula : call.pass.sheet.source? call.address = some source) :
    Ran maxReads busy call.address source call.pass
      ((call.evaluation maxReads source).run (answer maxReads) call.pass) := by
  rw [evaluation_eq]
  exact ran_of_going (.start fits.sound formula fits.unknown fits.hang call.depth)

/-- A computation that is started by one that fits does so too. -/
theorem Fits.starts (fits : outer.Fits maxReads busy) (starts : outer.Starts maxReads inner) :
    inner.Fits maxReads (insert outer.address busy) ∧ 0 < inner.depth.reads := by
  obtain ⟨source, formula, meets, isFormula, unsettled⟩ := starts
  -- The request is met on the course of the formula, which is under way from its start.
  rw [evaluation_eq] at meets
  have unknown := known_eq_none_iff.mpr ⟨isFormula, unsettled⟩
  exact fits_of_meets (.start fits.sound formula fits.unknown fits.hang outer.depth) meets unknown

/-- A computation within others fits, and the cells of all of them are busy. -/
theorem Fits.within (fits : outer.Fits maxReads busy)
    (within : Relation.TransGen (Starts maxReads) outer inner) :
    ∃ others, outer.address ∈ others ∧ inner.Fits maxReads others ∧ 0 < inner.depth.reads := by
  -- Each computation on the way adds its cell to those that are busy.
  induction within with
  | single starts => exact ⟨_, Set.mem_insert _ _, fits.starts starts⟩
  | tail _ starts ih =>
    obtain ⟨others, member, middle, _⟩ := ih
    exact ⟨_, Set.mem_insert_of_mem _ member, middle.starts starts⟩

/-- A computation of a cell within another one of the same cell is given up: it ends circular and
leaves the pass as it was. -/
theorem Fits.ending_of_within (fits : outer.Fits maxReads busy)
    (within : Relation.TransGen (Starts maxReads) outer inner)
    (again : inner.address = outer.address) :
    inner.ending maxReads = (.error .circular, inner.pass) := by
  obtain ⟨others, member, fitsToo, reads⟩ := fits.within within
  -- The cell is busy itself, so all that wait for it wait for one another.
  rw [← again] at member
  have hang := fitsToo.hang
  rw [Set.insert_eq_of_mem member] at hang
  exact compute_blocked hang member reads

end Call

end Pass

namespace Sheet

/-- A computation that a recalculation makes in its order, on its own. -/
def Visits (sheet : Sheet) (maxReads : Nat) (call : Pass.Call) : Prop :=
  ∃ before after, sheet.graph.schedule.order = before ++ call.address :: after ∧
    call.depth = ⟨0, 0⟩ ∧ call.pass = sheet.visiting maxReads before ∧
    call.pass.isSettled call.address = false

/-- A computation that a recalculation makes, on its own or from within others. -/
def Makes (sheet : Sheet) (maxReads : Nat) (call : Pass.Call) : Prop :=
  ∃ visit, sheet.Visits maxReads visit ∧
    Relation.ReflTransGen (Pass.Call.Starts maxReads) visit call

variable {sheet : Sheet} {maxReads : Nat} {call : Pass.Call}

/-- A computation that is made in the order fits, within no other. -/
theorem Visits.fits (visits : sheet.Visits maxReads call) : call.Fits maxReads ∅ := by
  obtain ⟨before, after, order, depth, pass, unsettled⟩ := visits
  have reached := sheet.visiting_reached maxReads before
  have member : call.address ∈ sheet.graph.schedule.order := by simp [order]
  -- What is scheduled are formulas, and they stay so during the pass.
  have formula := mem_schedule.mp (List.mem_append_left _ member)
  have unknown : call.pass.known call.address = none := by
    refine Pass.known_eq_none_iff.mpr ⟨?_, unsettled⟩
    rw [Sheet.isFormula, pass, reached.grows.sources]
    exact formula
  have sound : Pass.Sound maxReads call.pass := pass ▸ reached.sound
  obtain ⟨address, _, _⟩ := call
  obtain rfl : _ = _ := depth
  exact .alone sound unknown

/-- A computation that a recalculation makes fits within some others. -/
theorem Makes.fits (makes : sheet.Makes maxReads call) : ∃ busy, call.Fits maxReads busy := by
  obtain ⟨visit, visits, within⟩ := makes
  -- It is the visit itself, or it is made within it.
  rcases Relation.reflTransGen_iff_eq_or_transGen.mp within with same | within
  · exact ⟨∅, same ▸ visits.fits⟩
  · obtain ⟨others, _, fits, _⟩ := visits.fits.within within
    exact ⟨others, fits⟩

end Sheet

end Spreadsheet
