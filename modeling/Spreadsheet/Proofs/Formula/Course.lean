import Spreadsheet.Formula

/-! Courses of computations, and what the ceilings leave of them. -/

namespace Spreadsheet.Formula

/-- The course of a computation: it is done, or it enters an expression or asks for the text of a
cell, each from within so many expressions, and goes on. -/
inductive Course (α : Type) where
  | done (result : α)
  | enter (level : Nat) (rest : Course α)
  | ask (address : Address) (level : Nat) (next : Except EvalFault String → Course α)

namespace Course

variable {α β : Type}

/-- One course and then another. -/
def bind : Course α → (α → Course β) → Course β
  | .done result, after => after result
  | .enter level rest, after => .enter level (rest.bind after)
  | .ask address level next, after => .ask address level fun answer => (next answer).bind after

instance : Monad Course where
  pure := .done
  bind := bind

/-- A course with its result changed. -/
def map (change : α → β) (course : Course α) : Course β :=
  course.bind fun result => .done (change result)

/-- The course of a computation that reads by address alone, from within so many expressions. -/
def ofReading (level : Nat) : Reading Address α → Course α
  | .done result => .done result
  | .ask address next => .ask address level fun answer => ofReading level (next answer)

/-- What the ceilings leave of a course that starts from a depth: it ends with `stop` where it
would enter one expression or make one read too many. -/
def bounded (stop : α) (maxReads : Nat) (depth : Depth) : Course α → Reading Read α
  | .done result => .done result
  | .enter level rest =>
    -- One expression more is let in as long as fewer than all are in progress.
    if maxNodes ≤ depth.nodes + level then .done stop else rest.bounded stop maxReads depth
  | .ask address level next =>
    -- Every read of a formula is made from the same number of reads in progress.
    if maxReads ≤ depth.reads then .done stop
    else .ask ⟨address, ⟨depth.reads + 1, depth.nodes + level⟩⟩ fun answer =>
      (next answer).bounded stop maxReads depth

/-- The ceilings stop one course and then another as they stop each, if being stopped in the first
leads to being stopped in the second. -/
theorem bounded_bind {stop : α} {stop' : β} {after : α → Course β}
    (stops : after stop = .done stop') (maxReads : Nat) (depth : Depth) (course : Course α) :
    (course.bind after).bounded stop' maxReads depth =
      (course.bounded stop maxReads depth).bind fun result =>
        (after result).bounded stop' maxReads depth := by
  -- The induction follows the first course up to where a ceiling cuts it off.
  induction course with
  | done result => rfl
  | enter level rest ih =>
    simp only [bind, bounded]
    split
    · simp only [Reading.bind, stops, bounded]
    · exact ih
  | ask address level next ih =>
    simp only [bind, bounded]
    split
    · simp only [Reading.bind, stops, bounded]
    · simp only [Reading.bind, ih]

/-- The ceilings leave of a course with its result changed what they leave of the course. -/
theorem bounded_map (change : α → β) (stop : α) (maxReads : Nat) (depth : Depth)
    (course : Course α) :
    (course.map change).bounded (change stop) maxReads depth =
      (course.bounded stop maxReads depth).bind fun result => .done (change result) :=
  @bounded_bind α β stop (change stop) (fun result => .done (change result)) rfl maxReads depth
    course

/-- A course ends with `stop` only after a circular answer, and every circular answer ends it so. -/
def PassesOn (stop : α) : Course α → Prop
  | .done result => result ≠ stop
  | .enter _ rest => rest.PassesOn stop
  | .ask _ _ next => next (.error .circular) = .done stop ∧
      ∀ answer, answer ≠ .error .circular → (next answer).PassesOn stop

/-- Two courses in turn pass circular answers on if each of them does. -/
theorem PassesOn.bind {stop : α} {stop' : β} {course : Course α} {after : α → Course β}
    (first : course.PassesOn stop) (stops : after stop = .done stop')
    (second : ∀ result, result ≠ stop → (after result).PassesOn stop') :
    (course.bind after).PassesOn stop' := by
  -- The first course ends with a result, or hands a circular answer on to the second.
  induction course with
  | done result => exact second result first
  | enter level rest ih => exact ih first
  | ask address level next ih =>
    refine ⟨?_, fun answer other => ih answer (first.2 answer other)⟩
    show (next (.error .circular)).bind after = .done stop'
    rw [first.1, Course.bind, stops]

/-- A course still passes circular answers on when no other result is changed to a circular one. -/
theorem PassesOn.map {stop : α} {course : Course α} (passes : course.PassesOn stop)
    {change : α → β} (only : ∀ result, change result = change stop → result = stop) :
    (course.map change).PassesOn (change stop) :=
  passes.bind rfl fun result other changed => other (only result changed)

end Course

/-- A computation that reads by address ends circular only after a circular answer, and every
circular answer ends it so. -/
def Reading.PassesOn {α : Type} : Reading Address (Except EvalFault α) → Prop
  | .done result => result ≠ .error .circular
  | .ask _ next => next (.error .circular) = .done (.error .circular) ∧
      ∀ answer, answer ≠ .error .circular → (next answer).PassesOn

/-- The course of such a computation passes circular answers on, too. -/
theorem Reading.PassesOn.ofReading {α : Type} {reading : Reading Address (Except EvalFault α)}
    (passes : reading.PassesOn) (level : Nat) :
    (Course.ofReading level reading).PassesOn (.error .circular) := by
  -- The course asks what the computation asks, so a circular answer ends both.
  induction reading with
  | done result => exact passes
  | ask address next ih =>
    refine ⟨?_, fun answer other => ih answer (passes.2 answer other)⟩
    -- The computation that a circular answer leaves is done, and so is its course.
    show Course.ofReading level (next (.error .circular)) = .done (.error .circular)
    rw [passes.1, Course.ofReading]

/-- A table whose functions pass circular answers on. -/
def Registry.PassesOn (registry : Registry) : Prop :=
  ∀ function ∈ registry.functions, ∀ self args, (function.body self args).PassesOn

/-- Calling a function of such a table passes circular answers on. -/
theorem Registry.PassesOn.call {registry : Registry} (passes : registry.PassesOn) {name : String}
    {function : Function} (found : registry.find? name = some function) (self : Address)
    (args : List Value) : (function.call self args).PassesOn := by
  -- A call refused for its arguments ends with another fault.
  unfold Function.call
  split
  · simp [Reading.PassesOn]
  split
  · simp [Reading.PassesOn]
  · exact passes function (List.mem_of_find?_eq_some found) self args

/-- Adding up a range passes circular answers on. -/
theorem Builtin.sumFrom_passesOn (range : Range) (count : Nat) (address : Address) (total : Float) :
    (Builtin.sumFrom range count address total).PassesOn := by
  -- The range is gone through cell by cell, and a fault for an answer ends it at once.
  induction count generalizing address total with
  | zero => simp [Builtin.sumFrom, Reading.PassesOn]
  | succ count ih =>
    refine ⟨rfl, fun answer other => ?_⟩
    cases answer with
    | error fault =>
      intro circular
      exact other (by simpa using circular)
    | ok text =>
      dsimp only
      split
      · exact ih _ _
      split
      · exact ih _ _
      · simp [Reading.PassesOn]

/-- The built-in functions pass circular answers on. -/
theorem Builtin.registry_passesOn : Builtin.registry.PassesOn := by
  -- There are two functions: one adds up what it reads, and the other one reads nothing.
  intro function member self args
  have either : function = sumFunction ∨ function = ifFunction := by
    simpa [Builtin.registry, Registry.insert, Registry.empty, ifFunction, sumFunction] using member
  rcases either with rfl | rfl
  · show (Builtin.sum args).PassesOn
    unfold Builtin.sum
    split
    · exact sumFrom_passesOn _ _ _ _
    · simp [Reading.PassesOn]
  · show (Reading.done (choose args)).PassesOn
    unfold choose
    split <;> simp [Reading.PassesOn]

end Spreadsheet.Formula
