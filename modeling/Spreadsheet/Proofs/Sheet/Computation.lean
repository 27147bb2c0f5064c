import Mathlib.Data.Set.Insert
import Spreadsheet.Proofs.Sheet.Growth

/-! Computing a formula: the formulas it reads are computed first, those that wait for it through
others are given up, and whatever is settled meanwhile is settled for good. -/

namespace Spreadsheet.Pass

open Formula (Builtin.registry Course Depth EvalFault Fault Read Reading maxNodes textCourse)

variable {maxReads : Nat} {pass : Pass} {address : Address} {source : String} {depth : Depth}
  {busy goals : Set Address}

/-- A read deeper in expressions than a depth, as far as the ceiling allows. -/
def Deeper (depth : Depth) (read : Read) : Prop :=
  depth.nodes < read.depth.nodes ∧ read.depth.nodes ≤ maxNodes

/-- The computation of a formula reads deeper than where it starts. -/
theorem attempt_deeper (maxReads : Nat) (address : Address) (source : String) (depth : Depth) :
    (attempt maxReads address source depth).Holds (Deeper depth) (fun _ => True) := by
  -- The evaluation of the source makes the same reads.
  have reads := Formula.evaluateSource_reads_below ⟨address, Builtin.registry, maxReads⟩ source
    depth
  have shown := Formula.displayed_evaluateSource ⟨address, Builtin.registry, maxReads⟩
    Formula.Builtin.registry_passesOn source depth
  unfold attempt
  rw [← shown]
  have deeper := reads.mono (fun read below => (⟨below.2, below.1.bounded⟩ : Deeper depth read))
    (fun _ _ => trivial)
  exact deeper.bind fun _ _ => trivial

/-- To compute a formula is to run its computation and to settle what comes of it. -/
theorem compute_of_source (formula : pass.sheet.source? address = some source) (depth : Depth) :
    pass.compute maxReads address depth =
      ((attempt maxReads address source depth).run (answer maxReads) pass).2.conclude address
        depth.reads ((attempt maxReads address source depth).run (answer maxReads) pass).1 := by
  -- What is settled is the text shown for the value of the source.
  have shown := Formula.displayed_evaluateSource ⟨address, Builtin.registry, maxReads⟩
    Formula.Builtin.registry_passesOn source depth
  rw [compute_eq, formula]
  unfold attempt
  rw [← shown, Reading.run_bind]
  rfl

/-- Formulas that are not known and wait for some goals each. -/
def Hang (maxReads : Nat) (pass : Pass) (busy goals : Set Address) : Prop :=
  ∀ address ∈ busy, pass.known address = none ∧ ∃ other ∈ goals, Waits maxReads pass address other

/-- A run that comes to ask for a hanging formula is given up. -/
theorem run_blocked {course : Course (Except Fault String)}
    (passes : course.PassesOn (.error (.eval .circular)))
    (deeper : (course.bounded (.error (.eval .circular)) maxReads depth).Holds (Deeper depth)
      fun _ => True)
    (blocked : ∀ read, read.address ∈ busy → 0 < read.depth.reads → Deeper depth read →
      pass.compute maxReads read.address read.depth = (.error .circular, pass))
    {read : Read} {next : Except EvalFault String → Reading Read (Except Fault String)}
    (stuck : (course.bounded (.error (.eval .circular)) maxReads ⟨0, 0⟩).advance pass.answer? =
      .ask read next) (member : read.address ∈ busy) :
    (course.bounded (.error (.eval .circular)) maxReads depth).run (answer maxReads) pass =
      (.error (.eval .circular), pass) := by
  -- From the depth the course goes the same way as from the top, unless a ceiling cuts it off.
  induction course with
  | done result => simp [Course.bounded, Reading.advance] at stuck
  | enter level rest ih =>
    simp only [Course.bounded] at stuck deeper ⊢
    split at stuck
    · simp [Reading.advance] at stuck
    · split
      · rfl
      · rename_i room
        rw [if_neg room] at deeper
        exact ih passes deeper stuck
  | ask here level next ih =>
    simp only [Course.bounded] at stuck deeper ⊢
    split at stuck
    · simp [Reading.advance] at stuck
    · split
      · rfl
      · rename_i room
        rw [if_neg room] at deeper
        let request : Read := ⟨here, ⟨depth.reads + 1, depth.nodes + level⟩⟩
        cases found : pass.known here with
        | some text =>
          have honest : text ≠ .error .circular := by
            rw [← textAt_of_known found]
            exact textAt_ne_circular
          rw [Reading.run, answer_of_known request found]
          refine ih text (passes.2 text honest) (deeper.2 text) ?_
          simpa only [Reading.advance, answer?, found] using stuck
        | none =>
          simp only [Reading.advance, answer?, found, Reading.ask.injEq] at stuck
          -- This is the formula that hangs: it is given up, and the one that asks for it with it.
          have here_busy : here ∈ busy := by
            rw [← stuck.1] at member
            exact member
          rw [Reading.run, answer_of_unknown request found,
            blocked request here_busy (Nat.succ_pos _) deeper.1]
          show ((next (.error .circular)).bounded _ maxReads depth).run (answer maxReads) pass = _
          rw [passes.1]
          rfl

/-- A formula among some that all wait for one another is given up when another one reads it. -/
theorem compute_blocked (hang : Hang maxReads pass busy busy) (member : address ∈ busy)
    (inner : 0 < depth.reads) :
    pass.compute maxReads address depth = (.error .circular, pass) := by
  -- Every read is deeper, so the ceiling on expressions bounds the recursion.
  induction left : maxNodes - depth.nodes using Nat.strong_induction_on
    generalizing address depth with
  | _ remaining ih =>
    obtain ⟨_, other, otherMember, source, read, next, formula, stuck, rfl⟩ := hang address member
    -- The formula asks for one that hangs as well, which is computed deeper down.
    have run := run_blocked (Formula.textCourse_passesOn Formula.Builtin.registry_passesOn _ _)
      (attempt_deeper maxReads address source depth)
      (fun read readMember within below => ih (maxNodes - read.depth.nodes)
        (by have := below.1; have := below.2; omega) readMember within rfl)
      stuck otherMember
    rw [compute_of_source formula]
    unfold attempt
    rw [run, conclude, if_pos ⟨rfl, inner⟩]

/-- Formulas hang for as long as none of them and none of their goals is known. -/
theorem Hang.grows {after : Pass} (hang : Hang maxReads pass busy goals) (grows : Grows pass after)
    (unknown : ∀ other ∈ busy, after.known other = none)
    (ahead : ∀ other ∈ goals, after.known other = none) : Hang maxReads after busy goals := by
  -- Each of them still waits for the goal that it waited for.
  intro address member
  obtain ⟨_, other, goal, waits⟩ := hang address member
  exact ⟨unknown address member, other, goal, waits.grows grows (ahead other goal)⟩

/-- A formula that waits for one more cell hangs with those that wait for it. -/
theorem Hang.insert {other : Address} (hang : Hang maxReads pass busy (insert address busy))
    (unknown : pass.known address = none) (waits : Waits maxReads pass address other) :
    Hang maxReads pass (insert address busy) (insert other (insert address busy)) := by
  -- The formula waits for the other cell, and the rest for what they waited for.
  intro hanging either
  rcases Set.mem_insert_iff.mp either with same | member
  · rw [same]
    exact ⟨unknown, other, Set.mem_insert _ _, waits⟩
  · obtain ⟨hangs, next, goal, onward⟩ := hang hanging member
    exact ⟨hangs, next, Set.mem_insert_of_mem _ goal, onward⟩

/-- What comes of running a formula's computation: it is given up, or it has come to the result
that the formula has on its own with what is known by then; hanging formulas are not settled. -/
structure Ran (maxReads : Nat) (busy : Set Address) (address : Address) (source : String)
    (before : Pass) (outcome : Except Fault String × Pass) : Prop where
  grows : Grows before outcome.2
  sound : Sound maxReads outcome.2
  unknown : ∀ other ∈ insert address busy, outcome.2.known other = none
  ended : outcome.1 = .error (.eval .circular) ∨
    outcome.2.outlook maxReads address source = .done outcome.1

/-- What comes of computing a formula: it is given up, which happens only within another one, or it
is settled; hanging formulas are not settled. -/
structure Computed (maxReads : Nat) (busy : Set Address) (address : Address) (depth : Depth)
    (before : Pass) (outcome : Except EvalFault String × Pass) : Prop where
  grows : Grows before outcome.2
  sound : Sound maxReads outcome.2
  unknown : ∀ other ∈ busy, outcome.2.known other = none
  ended : (outcome.1 = .error .circular ∧ 0 < depth.reads) ∨
    ∃ text, outcome.1 = .ok text ∧ outcome.2.known address = some (.ok text)

/-- Running a formula's computation after a pass has grown is to have grown before it. -/
theorem Ran.of_grows {before : Pass} {outcome : Except Fault String × Pass}
    (ran : Ran maxReads busy address source pass outcome) (grows : Grows before pass) :
    Ran maxReads busy address source before outcome :=
  ⟨grows.trans ran.grows, ran.sound, ran.unknown, ran.ended⟩

/-- A run that is given up where it stands. -/
theorem Ran.stopped (sound : Sound maxReads pass)
    (unknown : ∀ other ∈ insert address busy, pass.known other = none) :
    Ran maxReads busy address source pass (.error (.eval .circular), pass) :=
  ⟨.refl pass, sound, unknown, .inl rfl⟩

/-- A formula's computation under way: the rest of its course is what the formula goes on with, at
the depth as at the top, and the formulas that hang wait for it or for one another. -/
structure Going (maxReads : Nat) (busy : Set Address) (address : Address) (source : String)
    (depth : Depth) (course : Course (Except Fault String)) (pass : Pass) : Prop where
  passes : course.PassesOn (.error (.eval .circular))
  deeper : (course.bounded (.error (.eval .circular)) maxReads depth).Holds (Deeper depth)
    fun _ => True
  sound : Sound maxReads pass
  formula : pass.sheet.source? address = some source
  unknown : pass.known address = none
  hang : Hang maxReads pass busy (insert address busy)
  same : pass.outlook maxReads address source =
    (course.bounded (.error (.eval .circular)) maxReads ⟨0, 0⟩).advance pass.answer?

namespace Going

variable {level : Nat} {here : Address} {rest : Course (Except Fault String)}
  {next : Except EvalFault String → Course (Except Fault String)}

/-- The computation of a formula that is not known starts. -/
theorem start (sound : Sound maxReads pass) (formula : pass.sheet.source? address = some source)
    (unknown : pass.known address = none) (hang : Hang maxReads pass busy (insert address busy))
    (depth : Depth) :
    Going maxReads busy address source depth (textCourse address Builtin.registry source) pass :=
  ⟨Formula.textCourse_passesOn Formula.Builtin.registry_passesOn _ _,
    attempt_deeper maxReads address source depth, sound, formula, unknown, hang, rfl⟩

/-- Neither the formula nor any that hangs is known. -/
theorem unsettled {course : Course (Except Fault String)}
    (going : Going maxReads busy address source depth course pass) :
    ∀ other ∈ insert address busy, pass.known other = none := by
  intro other either
  rcases Set.mem_insert_iff.mp either with same | member
  · exact same ▸ going.unknown
  · exact (going.hang other member).1

/-- Where the ceiling lets an expression in, the computation goes on within it. -/
theorem enter (going : Going maxReads busy address source depth (.enter level rest) pass)
    (room : ¬ maxNodes ≤ depth.nodes + level) :
    Going maxReads busy address source depth rest pass := by
  obtain ⟨passes, deeper, sound, formula, unknown, hang, same⟩ := going
  -- The ceilings leave at the top at least what they leave at the depth.
  simp only [Course.bounded] at deeper same
  rw [if_neg room] at deeper
  rw [if_neg (by omega)] at same
  exact ⟨passes, deeper, sound, formula, unknown, hang, same⟩

/-- A text that is known is the answer at the depth as it is at the top. -/
theorem known (going : Going maxReads busy address source depth (.ask here level next) pass)
    (room : ¬ maxReads ≤ depth.reads) {text : Except EvalFault String}
    (found : pass.known here = some text) :
    Going maxReads busy address source depth (next text) pass := by
  obtain ⟨passes, deeper, sound, formula, unknown, hang, same⟩ := going
  have honest : text ≠ .error .circular := by
    rw [← textAt_of_known found]
    exact textAt_ne_circular
  simp only [Course.bounded] at deeper same
  rw [if_neg room] at deeper
  rw [if_neg (by omega)] at same
  refine ⟨passes.2 text honest, deeper.2 text, sound, formula, unknown, hang, ?_⟩
  simpa only [Reading.advance, answer?, found] using same

/-- Where a text is not known, the formula is stuck. -/
theorem stuck (going : Going maxReads busy address source depth (.ask here level next) pass)
    (room : ¬ maxReads ≤ depth.reads) (found : pass.known here = none) :
    pass.outlook maxReads address source = .ask ⟨here, ⟨0 + 1, 0 + level⟩⟩ fun answer =>
      (next answer).bounded (.error (.eval .circular)) maxReads ⟨0, 0⟩ := by
  have same := going.same
  simp only [Course.bounded] at same
  rw [if_neg (by omega)] at same
  simpa only [Reading.advance, answer?, found] using same

/-- The formula hangs with the others while the one is computed that it is stuck at. -/
theorem hangs (going : Going maxReads busy address source depth (.ask here level next) pass)
    (room : ¬ maxReads ≤ depth.reads) (found : pass.known here = none) :
    Hang maxReads pass (insert address busy) (insert here (insert address busy)) :=
  going.hang.insert going.unknown ⟨source, _, _, going.formula, going.stuck room found, rfl⟩

/-- What is read lies deeper. -/
theorem below (going : Going maxReads busy address source depth (.ask here level next) pass)
    (room : ¬ maxReads ≤ depth.reads) :
    Deeper depth ⟨here, ⟨depth.reads + 1, depth.nodes + level⟩⟩ := by
  have deeper := going.deeper
  simp only [Course.bounded] at deeper
  rw [if_neg room] at deeper
  exact deeper.1

/-- Once the formula that it is stuck at is settled, the computation goes on with its text. -/
theorem answered (going : Going maxReads busy address source depth (.ask here level next) pass)
    (room : ¬ maxReads ≤ depth.reads) (found : pass.known here = none) {after : Pass}
    (grows : Grows pass after) (sound : Sound maxReads after)
    (unsettled : ∀ other ∈ insert address busy, after.known other = none) {text : String}
    (known : after.known here = some (.ok text)) :
    Going maxReads busy address source depth (next (.ok text)) after := by
  have stuck := going.stuck room found
  obtain ⟨passes, deeper, _, formula, _, hang, _⟩ := going
  simp only [Course.bounded] at deeper
  rw [if_neg room] at deeper
  refine ⟨passes.2 _ (by simp), deeper.2 _, sound, (grows.sources address).trans formula,
    unsettled address (Set.mem_insert _ _),
    hang.grows grows (fun other member => unsettled other (.inr member)) unsettled, ?_⟩
  -- The outlook of the formula goes on from where it was stuck.
  have known : after.answer? ⟨here, ⟨0 + 1, 0 + level⟩⟩ = some (.ok text) := known
  rw [grows.outlook, stuck, Reading.advance, known]

end Going

/-- The rest of a run, given what comes of computing the formulas that it reads. -/
theorem run_spec {course : Course (Except Fault String)}
    (recursive : ∀ {pass : Pass} (read : Read), 0 < read.depth.reads → Deeper depth read →
      Sound maxReads pass → pass.known read.address = none →
      Hang maxReads pass (insert address busy) (insert read.address (insert address busy)) →
      Computed maxReads (insert address busy) read.address read.depth pass
        (pass.compute maxReads read.address read.depth))
    (going : Going maxReads busy address source depth course pass) :
    Ran maxReads busy address source pass
      ((course.bounded (.error (.eval .circular)) maxReads depth).run (answer maxReads) pass) := by
  -- The induction follows the course to its end, or to where a ceiling cuts it off.
  induction course generalizing pass with
  | done result => exact ⟨.refl pass, going.sound, going.unsettled, .inr going.same⟩
  | enter level rest ih =>
    simp only [Course.bounded]
    split
    · exact .stopped going.sound going.unsettled
    · rename_i room
      exact ih (going.enter room)
  | ask here level next ih =>
    simp only [Course.bounded]
    split
    · exact .stopped going.sound going.unsettled
    · rename_i room
      let request : Read := ⟨here, ⟨depth.reads + 1, depth.nodes + level⟩⟩
      cases found : pass.known here with
      | some text =>
        rw [Reading.run, answer_of_known request found]
        exact ih text (going.known room found)
      | none =>
        -- The formula waits for the one that is computed now.
        have computed := recursive request (Nat.succ_pos _) (going.below room) going.sound found
          (going.hangs room found)
        rw [Reading.run, answer_of_unknown request found]
        generalize pass.compute maxReads request.address request.depth = outcome at computed
        obtain ⟨answered, after⟩ := outcome
        obtain ⟨grows, sound, unsettled, ended⟩ := computed
        show Ran maxReads busy address source pass
          (((next answered).bounded _ maxReads depth).run (answer maxReads) after)
        refine Ran.of_grows ?_ grows
        -- Either what is read is given up and so is this, or its text is known from here on.
        rcases ended with ⟨rfl, _⟩ | ⟨text, rfl, known⟩
        · rw [going.passes.1]
          exact .stopped sound unsettled
        · exact ih (.ok text) (going.answered room found grows sound unsettled known)

/-- A result that is kept is settled as what a sheet shows for it, and counted. -/
theorem conclude_of_kept {result : Except Fault String} {reads : Nat}
    (kept : ¬ (result = .error (.eval .circular) ∧ 0 < reads)) (pass : Pass) (address : Address) :
    pass.conclude address reads result =
      (.ok (rendered result), { pass.settle address (rendered result) with
        calculated := pass.calculated + 1
        errors := pass.errors + if result.isOk then 0 else 1 }) := by
  -- Only a circular fault within another computation is not kept.
  cases result with
  | ok text => rfl
  | error fault =>
    have other : ¬ (fault = .eval .circular ∧ 0 < reads) := by simpa using kept
    rw [conclude, if_neg other]
    rfl

/-- A run is concluded by settling the formula, unless it was given up within another one. -/
theorem Ran.conclude {outcome : Except Fault String × Pass}
    (ran : Ran maxReads busy address source pass outcome)
    (formula : pass.sheet.source? address = some source) (fresh : address ∉ busy) :
    Computed maxReads busy address depth pass
      (outcome.2.conclude address depth.reads outcome.1) := by
  -- The formula is not known yet, so settling it is a step of growth.
  have unknown : outcome.2.known address = none := ran.unknown address (Set.mem_insert _ _)
  have stays : outcome.2.sheet.source? address = some source :=
    (ran.grows.sources address).trans formula
  by_cases dropped : outcome.1 = .error (.eval .circular) ∧ 0 < depth.reads
  · rw [dropped.1, Pass.conclude, if_pos ⟨rfl, dropped.2⟩]
    exact ⟨ran.grows, ran.sound, fun other member => ran.unknown other (.inr member),
      .inl ⟨rfl, dropped.2⟩⟩
  · have settled := conclude_of_kept dropped outcome.2 address
    -- What is settled is the marker, or what the formula has on its own.
    have shows : rendered outcome.1 = Formula.circularMarker ∨
        ∀ source, outcome.2.sheet.source? address = some source → ∃ result,
          outcome.2.outlook maxReads address source = .done result ∧
            rendered outcome.1 = rendered result := by
      rcases ran.ended with circular | ended
      · exact .inl (by rw [circular]; rfl)
      · refine .inr fun other otherFormula => ⟨outcome.1, ?_, rfl⟩
        obtain rfl := Option.some.inj (stays.symm.trans otherFormula)
        exact ended
    rw [settled]
    have later := grows_settle unknown (rendered outcome.1)
    refine ⟨ran.grows.trans ⟨later.sources, later.known⟩, ran.sound.settle unknown shows, ?_, ?_⟩
    · intro other member
      have elsewhere : other ≠ address := fun same => fresh (same ▸ member)
      show (outcome.2.settle address _).known other = none
      rw [known_settle stays, if_neg elsewhere]
      exact ran.unknown other (.inr member)
    · refine .inr ⟨rendered outcome.1, rfl, ?_⟩
      show (outcome.2.settle address _).known address = _
      rw [known_settle stays, if_pos rfl]

/-- To compute a formula lets the pass grow soundly, and ends with the formula settled unless it is
given up within another one; a formula that hangs is given up. -/
theorem compute_spec (sound : Sound maxReads pass) (unknown : pass.known address = none)
    (inner : address ∈ busy → 0 < depth.reads)
    (hang : Hang maxReads pass busy (insert address busy)) :
    Computed maxReads busy address depth pass (pass.compute maxReads address depth) := by
  -- Every read is deeper, so the ceiling on expressions bounds the recursion.
  induction left : maxNodes - depth.nodes using Nat.strong_induction_on
    generalizing pass address depth busy with
  | _ remaining ih =>
    by_cases member : address ∈ busy
    · rw [Set.insert_eq_of_mem member] at hang
      rw [compute_blocked hang member (inner member)]
      exact ⟨.refl pass, sound, fun other member => (hang other member).1,
        .inl ⟨rfl, inner member⟩⟩
    · obtain ⟨source, formula⟩ := exists_source_of_unknown unknown
      rw [compute_of_source formula]
      refine Ran.conclude ?_ formula member
      refine run_spec ?_ (.start sound formula unknown hang depth)
      intro pass read reads below sound unknown hang
      have less : maxNodes - read.depth.nodes < remaining := by
        have deeper := below.1
        have bounded := below.2
        omega
      exact ih _ less sound unknown (fun _ => reads) hang rfl

end Spreadsheet.Pass
