import Spreadsheet.Proofs.Formula.CutShort

/-! Formulas with room under the ceilings: how deep they ask, and what they come to. -/

namespace Spreadsheet.Formula

namespace Reading

variable {Request σ α : Type} {P P' : Request → Prop} {Q Q' : α → Prop}
  {reading : Reading Request α} {answer : Request → σ → Except EvalFault String × σ}

/-- What holds of the requests of a computation, and what else does, holds of them together. -/
theorem Holds.and (one : reading.Holds P Q) (other : reading.Holds P' Q') :
    reading.Holds (fun request => P request ∧ P' request) fun result => Q result ∧ Q' result := by
  induction reading with
  | done result => exact ⟨one, other⟩
  | ask request next ih =>
    exact ⟨⟨one.1, other.1⟩, fun answer => ih answer (one.2 answer) (other.2 answer)⟩

/-- A run whose requests are answered with certain texts, and in a way that keeps an invariant, goes
as it would if it were told these texts, and keeps the invariant. -/
theorem run_of_invariant {invariant : σ → Prop} {texts : Request → Except EvalFault String}
    (holds : reading.Holds P Q)
    (answers : ∀ request state, P request → invariant state →
      (answer request state).1 = texts request ∧ invariant (answer request state).2)
    {state : σ} (start : invariant state) :
    (reading.run answer state).1 =
        (reading.run (fun request state => (texts request, state)) ()).1 ∧
      invariant (reading.run answer state).2 := by
  -- Whoever tells these texts agrees with the answerer for as long as the invariant holds.
  have agree : Agree P (fun state (_ : Unit) => invariant state) answer
      fun request state => (texts request, state) :=
    fun request state _ asked kept => answers request state asked kept
  obtain ⟨results, _, kept⟩ := holds.run_of_agree agree start
  exact ⟨results, kept⟩

end Reading

namespace Course

variable {α : Type} {stop : α} {course : Course α} {bound maxReads : Nat} {depth : Depth}
  {texts : Address → Except EvalFault String}

/-- What a course comes to without ceilings when each cell has a text that it is told. -/
def under (texts : Address → Except EvalFault String) : Course α → α
  | .done result => result
  | .enter _ rest => rest.under texts
  | .ask address _ next => (next (texts address)).under texts

/-- Under honest texts a course that passes circular answers on does not come to one. -/
theorem under_ne_stop (passes : course.PassesOn stop)
    (honest : ∀ address, texts address ≠ .error .circular) : course.under texts ≠ stop := by
  induction course with
  | done result => exact passes
  | enter level rest ih => exact ih passes
  | ask address level next ih => exact ih _ (passes.2 _ (honest address))

/-- A run without ceilings comes to what the texts that it is told lead to. -/
theorem run_free (course : Course α) :
    (course.free.run (fun address state => (texts address, state)) ()).1 = course.under texts := by
  induction course with
  | done result => rfl
  | enter level rest ih => exact ih
  | ask address level next ih => exact ih (texts address)

/-- The ceilings leave a course alone where they have room for all that it has in progress. -/
theorem run_bounded_of_room (within : course.Within bound) (reads : depth.reads < maxReads)
    (nodes : depth.nodes + bound ≤ maxNodes) :
    ((course.bounded stop maxReads depth).run
      (fun read state => (texts read.address, state)) ()).1 = course.under texts := by
  have follows := within.follows stop maxReads depth (fun address state => (texts address, state))
    reads nodes ()
  exact (congrArg Prod.fst follows.run).trans (run_free course)

/-- A course that may have so many expressions in progress asks no deeper than that. -/
theorem holds_bounded_of_within (within : course.Within bound) (room : bound ≤ maxNodes)
    (deeper : (course.bounded stop 1 ⟨0, maxNodes - bound⟩).Holds
      (fun read => read.depth.nodes ≤ maxNodes) fun _ => True) (maxReads : Nat) (depth : Depth) :
    (course.bounded stop maxReads depth).Holds
      (fun read => read.depth.reads = depth.reads + 1 ∧ read.depth.nodes ≤ depth.nodes + bound)
      fun _ => True := by
  -- Started where there is just room enough, the course goes all its way and asks below the
  -- ceiling.
  induction course with
  | done result => trivial
  | enter level rest ih =>
    obtain ⟨here, within⟩ := within
    simp only [bounded] at deeper ⊢
    rw [if_neg (by omega)] at deeper
    split
    · trivial
    · exact ih within deeper
  | ask address level next ih =>
    simp only [bounded] at deeper ⊢
    rw [if_neg (by omega)] at deeper
    have below : maxNodes - bound + level ≤ maxNodes := deeper.1
    split
    · trivial
    · refine ⟨⟨rfl, ?_⟩, fun answer => ih answer (within answer) (deeper.2 answer)⟩
      show depth.nodes + level ≤ depth.nodes + bound
      omega

end Course

/-- The height of the expression that a source is; a text that is none has no height. -/
def sourceHeight (source : String) : Nat :=
  match parseSource source with
  | .ok expr => expr.height
  | .error _ => 0

/-- A source has no more expressions in progress than its expression is high. -/
theorem textCourse_within (self : Address) (registry : Registry) (source : String) :
    (textCourse self registry source).Within (sourceHeight source) := by
  unfold textCourse sourceCourse sourceHeight
  cases parseSource source with
  | error fault => trivial
  | ok expr =>
    have within := evaluateFreely_within self registry expr 0
    rw [Nat.zero_add] at within
    -- What is made of the value enters no expression.
    have staged : ((evaluateFreely self registry 0 expr).course.map staged).Within expr.height :=
      Course.Within.bind within fun _ => trivial
    exact Course.Within.bind staged fun _ => trivial

end Spreadsheet.Formula
