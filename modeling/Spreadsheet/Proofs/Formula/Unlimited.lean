import Spreadsheet.Proofs.Formula.Course

/-! Evaluation without ceilings, and evaluation as what the ceilings leave of it. -/

namespace Spreadsheet.Formula

/-- An evaluation that no ceiling stops. -/
abbrev Unlimited (α : Type) := ExceptT EvalFault Course α

namespace Unlimited

variable {α β : Type}

/-- The course of an evaluation that no ceiling stops. -/
def course (evaluation : Unlimited α) : Course (Except EvalFault α) :=
  evaluation

/-- The evaluation that takes a course. -/
def ofCourse (course : Course (Except EvalFault α)) : Unlimited α :=
  course

/-- Goes on as one more expression, from within so many others. -/
def atNode (level : Nat) (evaluation : Unlimited α) : Unlimited α :=
  ofCourse (.enter level evaluation.course)

/-- Reads the text of a cell from within so many expressions. -/
def readCell (level : Nat) (address : Address) : Unlimited String :=
  ofCourse (.ask address level .done)

/-- How a course goes on with what follows an evaluation: with its value, and not after a fault. -/
def onward (second : α → Unlimited β) : Except EvalFault α → Course (Except EvalFault β)
  | .ok value => (second value).course
  | .error fault => .done (.error fault)

/-- Two evaluations in turn take the course of the first, and go on from its result. -/
theorem course_bind (first : Unlimited α) (second : α → Unlimited β) :
    (first >>= second).course = first.course.bind (onward second) := by
  show first.course.bind _ = _
  congr 1
  funext result
  cases result <;> rfl

end Unlimited

/-- The value of the cell a reference names, read from within so many expressions. -/
def freeReference (self : Address) (level : Nat) (text : String) : Unlimited Value := do
  let address ← (resolve text : Except EvalFault Address)
  if address = self then throw .ownCell
  else
    let shown ← Unlimited.readCell level address
    return Value.ofCellText shown

mutual

/-- The value of an expression within so many others, when no ceiling stops its evaluation. -/
def evaluateFreely (self : Address) (registry : Registry) : Nat → Expr → Unlimited Value
  | level, .literal value => .atNode level (pure value)
  | level, .cell text => .atNode level (freeReference self (level + 1) text)
  | level, .range first last =>
    .atNode level (resolveRange first last : Except EvalFault Value)
  | level, .binary op left right => .atNode level do
    let left ← evaluateFreely self registry (level + 1) left
    let right ← evaluateFreely self registry (level + 1) right
    op.apply left right
  | level, .negation operand => .atNode level do
    let value ← evaluateFreely self registry (level + 1) operand
    negate value
  | level, .group inner => .atNode level (evaluateFreely self registry (level + 1) inner)
  | level, .call name args => .atNode level do
    match registry.find? name with
    | none => throw .unknownFunction
    | some function =>
      -- The arguments are within the call, and so is all that the function reads.
      let values ← evaluateAllFreely self registry (level + 1) args
      .ofCourse (Course.ofReading (level + 1) (function.call self values))

/-- The values of some expressions within so many others, from left to right. -/
def evaluateAllFreely (self : Address) (registry : Registry) :
    Nat → List Expr → Unlimited (List Value)
  | _, [] => pure []
  | level, expr :: rest => do
    let value ← evaluateFreely self registry level expr
    let values ← evaluateAllFreely self registry level rest
    return value :: values

end

namespace Evaluation

variable {α β : Type} {maxReads : Nat} {depth : Depth} {level : Nat}

/-- A depth with so many expressions more in progress. -/
def within (depth : Depth) (level : Nat) : Depth :=
  ⟨depth.reads, depth.nodes + level⟩

/-- Within so many expressions an evaluation is what the ceilings leave of an unlimited one, and it
ends at the depth it starts from. -/
def Cuts (maxReads : Nat) (depth : Depth) (level : Nat) (evaluation : Evaluation α)
    (free : Unlimited α) : Prop :=
  evaluation.startAt (within depth level) =
    (free.course.bounded (.error .circular) maxReads depth).bind fun result =>
      .done (result, within depth level)

namespace Cuts

/-- A value that is at hand is not cut. -/
theorem pure (value : α) : Cuts maxReads depth level (Pure.pure value) (Pure.pure value) :=
  rfl

/-- A fault that is thrown is not cut. -/
theorem throw (fault : EvalFault) :
    Cuts maxReads depth level (MonadExcept.throw fault : Evaluation α)
      (MonadExcept.throw fault) :=
  rfl

/-- A result or a fault that is at hand is not cut. -/
theorem ofExcept (result : Except EvalFault α) :
    Cuts maxReads depth level (MonadLift.monadLift result : Evaluation α)
      (MonadLift.monadLift result) :=
  rfl

/-- Two evaluations in turn are cut as they are cut each. -/
theorem bind {first : Evaluation α} {second : α → Evaluation β} {freeFirst : Unlimited α}
    {freeSecond : α → Unlimited β} (cuts : Cuts maxReads depth level first freeFirst)
    (then_cuts : ∀ value, Cuts maxReads depth level (second value) (freeSecond value)) :
    Cuts maxReads depth level (first >>= second) (freeFirst >>= freeSecond) := by
  have turns : (first >>= second).startAt (within depth level) =
      (first.startAt (within depth level)).bind fun ended => match ended with
        | (.ok value, depth) => (second value).startAt depth
        | (.error fault, depth) => .done (.error fault, depth) := by
    show (first.startAt (within depth level)).bind _ = _
    congr 1
    funext ended
    obtain ⟨result, depth⟩ := ended
    cases result <;> rfl
  unfold Cuts at cuts then_cuts ⊢
  -- A fault of the first ends both, a circular one from a ceiling included.
  have stops : Unlimited.onward freeSecond (.error .circular) = .done (.error .circular) := rfl
  rw [Unlimited.course_bind, Course.bounded_bind stops, turns, cuts, Reading.bind_assoc,
    Reading.bind_assoc]
  congr 1
  funext result
  cases result with
  | ok value => exact then_cuts value
  | error fault => rfl

/-- An expression is cut where the ceiling on expressions does not let it in. -/
theorem atNode {evaluation : Evaluation α} {free : Unlimited α}
    (cuts : Cuts maxReads depth (level + 1) evaluation free) :
    Cuts maxReads depth level (Evaluation.atNode evaluation) (free.atNode level) := by
  have entered : evaluation.startAt ⟨depth.reads, depth.nodes + level + 1⟩ =
      (free.course.bounded (.error .circular) maxReads depth).bind fun result =>
        .done (result, within depth (level + 1)) := cuts
  show (if maxNodes ≤ depth.nodes + level then _ else _) =
    Reading.bind (if maxNodes ≤ depth.nodes + level then _ else _) _
  -- Both sides ask whether there is room for one more expression, and answer alike.
  by_cases full : maxNodes ≤ depth.nodes + level
  · rw [if_pos full, if_pos full]
    rfl
  · rw [if_neg full, if_neg full]
    -- Leaving the expression undoes what entering it did.
    show (evaluation.startAt ⟨depth.reads, depth.nodes + level + 1⟩).bind _ = _
    rw [entered, Reading.bind_assoc]
    rfl

/-- Reading by address is cut where the ceiling on reads does not let it read. -/
theorem ofReading {reading : Reading Address (Except EvalFault α)} (passes : reading.PassesOn) :
    Cuts maxReads depth level (ofStart (Evaluation.ofReading maxReads reading))
      (.ofCourse (Course.ofReading level reading)) := by
  show Evaluation.ofReading maxReads reading (within depth level) =
    ((Course.ofReading level reading).bounded (.error .circular) maxReads depth).bind _
  induction reading with
  | done result => rfl
  | ask address next ih =>
    show (if maxReads ≤ depth.reads then _ else _) =
      Reading.bind (if maxReads ≤ depth.reads then _ else _) _
    -- A read that is refused is answered with the circular fault, which ends the computation.
    by_cases full : maxReads ≤ depth.reads
    · rw [if_pos full, if_pos full, passes.1]
      rfl
    · rw [if_neg full, if_neg full]
      simp only [Reading.bind, within]
      congr 1
      funext answer
      by_cases circular : answer = .error .circular
      · rw [circular, passes.1]
        rfl
      · exact ih answer (passes.2 answer circular)

end Cuts

end Evaluation

/-- Giving back the one text that is read passes circular answers on. -/
theorem readingOnce_passesOn (address : Address) : (Reading.ask address .done).PassesOn :=
  ⟨rfl, fun _ other => other⟩

section

variable {scope : Scope} {depth : Depth}

/-- Reading a referenced cell is cut by the ceiling on reads. -/
theorem readReference_cuts (text : String) (level : Nat) :
    Evaluation.Cuts scope.maxReads depth level (scope.readReference text)
      (freeReference scope.self level text) := by
  -- A reference is resolved first; the own cell is refused, and any other one is read.
  refine .bind (.ofExcept _) fun address => ?_
  split
  · exact .throw _
  · refine .bind ?_ fun shown => .pure _
    exact .ofReading (readingOnce_passesOn address)

mutual

/-- Evaluation is what the ceilings leave of evaluation without them. -/
theorem evaluate_cuts (passes : scope.registry.PassesOn) : ∀ expr level,
    Evaluation.Cuts scope.maxReads depth level (evaluate scope expr)
      (evaluateFreely scope.self scope.registry level expr)
  | .literal value, level => by
    rw [evaluate, evaluateFreely]
    exact .atNode (.pure value)
  | .cell text, level => by
    rw [evaluate, evaluateFreely]
    exact .atNode (readReference_cuts text (level + 1))
  | .range first last, level => by
    rw [evaluate, evaluateFreely]
    exact .atNode (.ofExcept (resolveRange first last))
  | .binary op left right, level => by
    rw [evaluate, evaluateFreely]
    -- Both operands are within the expression, the left one first.
    refine .atNode (.bind (evaluate_cuts passes left (level + 1)) fun leftValue => ?_)
    refine .bind (evaluate_cuts passes right (level + 1)) fun rightValue => ?_
    exact .ofExcept (op.apply leftValue rightValue)
  | .negation operand, level => by
    rw [evaluate, evaluateFreely]
    refine .atNode (.bind (evaluate_cuts passes operand (level + 1)) fun value => ?_)
    exact .ofExcept (negate value)
  | .group inner, level => by
    rw [evaluate, evaluateFreely]
    exact .atNode (evaluate_cuts passes inner (level + 1))
  | .call name args, level => by
    rw [evaluate, evaluateFreely]
    refine .atNode ?_
    -- The function is looked up before any argument is evaluated.
    cases found : scope.registry.find? name with
    | none => exact .throw _
    | some function =>
      refine .bind (evaluateAll_cuts passes args (level + 1)) fun values => ?_
      exact .ofReading (passes.call found scope.self values)

/-- Evaluation in turn is what the ceilings leave of it without them. -/
theorem evaluateAll_cuts (passes : scope.registry.PassesOn) : ∀ exprs level,
    Evaluation.Cuts scope.maxReads depth level (evaluateAll scope exprs)
      (evaluateAllFreely scope.self scope.registry level exprs)
  | [], level => by
    rw [evaluateAll, evaluateAllFreely]
    exact .pure []
  | expr :: rest, level => by
    rw [evaluateAll, evaluateAllFreely]
    refine .bind (evaluate_cuts passes expr level) fun value => ?_
    exact .bind (evaluateAll_cuts passes rest level) fun values => .pure (value :: values)

end

end

namespace Unlimited

/-- An evaluation that ends circular only after a circular answer, and after every such answer. -/
def PassesOn {α : Type} (evaluation : Unlimited α) : Prop :=
  evaluation.course.PassesOn (.error .circular)

namespace PassesOn

variable {α β : Type}

/-- A value that is at hand is not circular. -/
theorem pure (value : α) : PassesOn (Pure.pure value) :=
  fun equal => nomatch equal

/-- A fault that is thrown passes, unless it is the circular one. -/
theorem throw {fault : EvalFault} (other : fault ≠ .circular) :
    PassesOn (MonadExcept.throw fault : Unlimited α) :=
  fun equal => other (by simpa using equal)

/-- A result or a fault that is at hand passes, unless it is the circular one. -/
theorem ofExcept {result : Except EvalFault α} (other : result ≠ .error .circular) :
    PassesOn (MonadLift.monadLift result : Unlimited α) :=
  other

/-- Two evaluations in turn pass circular answers on if each of them does. -/
theorem bind {first : Unlimited α} {second : α → Unlimited β} (passes : first.PassesOn)
    (then_passes : ∀ value, (second value).PassesOn) : PassesOn (first >>= second) := by
  -- A fault of the first ends both, and a value leads on to the second.
  unfold PassesOn at passes ⊢
  rw [course_bind]
  refine passes.bind rfl fun result other => ?_
  cases result with
  | ok value => exact then_passes value
  | error fault => exact fun equal => other (by simpa using equal)

/-- One more expression in progress passes circular answers on. -/
theorem atNode {evaluation : Unlimited α} (passes : evaluation.PassesOn) (level : Nat) :
    (evaluation.atNode level).PassesOn :=
  passes

/-- A computation that passes circular answers on does so within any number of expressions. -/
theorem ofReading {reading : Reading Address (Except EvalFault α)} (passes : reading.PassesOn)
    (level : Nat) : PassesOn (ofCourse (Course.ofReading level reading)) :=
  Reading.PassesOn.ofReading passes level

end PassesOn

end Unlimited

/-- No reference resolves to the circular fault. -/
theorem resolve_ne_circular (text : String) : resolve text ≠ .error .circular := by
  -- A text that names no cell lies outside the grid, which is another fault.
  unfold resolve
  split <;> simp

/-- No two references span the circular fault. -/
theorem resolveRange_ne_circular (first last : String) :
    resolveRange first last ≠ .error .circular := by
  -- A range has the fault of its first end, or else that of its last one.
  have start := resolve_ne_circular first
  have finish := resolve_ne_circular last
  unfold resolveRange
  cases first : resolve first with
  | error fault =>
    exact fun equal => start (first.trans (by simpa [Bind.bind, Except.bind] using equal))
  | ok first =>
    cases last : resolve last with
    | error fault =>
      exact fun equal => finish (last.trans (by simpa [Bind.bind, Except.bind] using equal))
    | ok last => simp [Bind.bind, Except.bind, Pure.pure, Except.pure]

/-- No operator makes the circular fault of its operands. -/
theorem apply_ne_circular (op : BinaryOp) (left right : Value) :
    op.apply left right ≠ .error .circular := by
  -- Operands that do not fit are the only fault of an operator.
  cases op <;> cases left <;> cases right <;> simp [BinaryOp.apply, addValues, onNumbers]

/-- No value has the circular fault for its opposite. -/
theorem negate_ne_circular (value : Value) : negate value ≠ .error .circular := by
  cases value <;> simp [negate]

/-- Reading a referenced cell passes circular answers on. -/
theorem freeReference_passesOn (self : Address) (level : Nat) (text : String) :
    (freeReference self level text).PassesOn := by
  -- A reference is resolved first; the own cell is refused, and any other one is read.
  refine .bind (.ofExcept (resolve_ne_circular text)) fun address => ?_
  split
  · exact .throw (by simp)
  · refine .bind ?_ fun shown => .pure _
    exact .ofReading (readingOnce_passesOn address) level

mutual

/-- Evaluation without ceilings is circular only after a circular answer. -/
theorem evaluateFreely_passesOn {registry : Registry} (passes : registry.PassesOn)
    (self : Address) : ∀ expr level, (evaluateFreely self registry level expr).PassesOn
  | .literal value, level => by
    rw [evaluateFreely]
    exact .atNode (.pure value) level
  | .cell text, level => by
    rw [evaluateFreely]
    exact .atNode (freeReference_passesOn self (level + 1) text) level
  | .range first last, level => by
    rw [evaluateFreely]
    exact .atNode (.ofExcept (resolveRange_ne_circular first last)) level
  | .binary op left right, level => by
    rw [evaluateFreely]
    -- The operator adds no circular fault to those of its operands.
    refine .atNode (.bind (evaluateFreely_passesOn passes self left _) fun leftValue => ?_) level
    refine .bind (evaluateFreely_passesOn passes self right _) fun rightValue => ?_
    exact .ofExcept (apply_ne_circular op leftValue rightValue)
  | .negation operand, level => by
    rw [evaluateFreely]
    refine .atNode (.bind (evaluateFreely_passesOn passes self operand _) fun value => ?_) level
    exact .ofExcept (negate_ne_circular value)
  | .group inner, level => by
    rw [evaluateFreely]
    exact .atNode (evaluateFreely_passesOn passes self inner _) level
  | .call name args, level => by
    rw [evaluateFreely]
    refine .atNode ?_ level
    cases found : registry.find? name with
    | none => exact .throw (by simp)
    | some function =>
      refine .bind (evaluateAllFreely_passesOn passes self args _) fun values => ?_
      exact .ofReading (passes.call found self values) _

/-- Evaluation in turn without ceilings is circular only after a circular answer. -/
theorem evaluateAllFreely_passesOn {registry : Registry} (passes : registry.PassesOn)
    (self : Address) : ∀ exprs level, (evaluateAllFreely self registry level exprs).PassesOn
  | [], level => by
    rw [evaluateAllFreely]
    exact .pure []
  | expr :: rest, level => by
    rw [evaluateAllFreely]
    refine .bind (evaluateFreely_passesOn passes self expr _) fun value => ?_
    exact .bind (evaluateAllFreely_passesOn passes self rest _) fun values => .pure _

end

end Spreadsheet.Formula
