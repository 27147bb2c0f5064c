import Spreadsheet.Proofs.Formula.Source
import Spreadsheet.Proofs.Formula.Tower

/-! When the ceiling on expressions stops a formula that parses. -/

namespace Spreadsheet.Formula

namespace Course

variable {σ α β : Type}

/-- The most expressions in progress at once on a course that is answered from a depth. -/
def deepest (answer : Read → σ → Except EvalFault String × σ) (depth : Depth) :
    Course α → σ → Nat
  | .done _, _ => 0
  | .enter level rest, state => max (level + 1) (rest.deepest answer depth state)
  | .ask address level next, state =>
    -- The request is the one that an evaluation under the ceilings makes from this depth.
    let (text, state) := answer ⟨address, ⟨depth.reads + 1, depth.nodes + level⟩⟩ state
    (next text).deepest answer depth state

/-- Answers that are never the circular fault leave a course to the ceilings, which stop it exactly
if it has more expressions in progress than there is room for. -/
theorem run_bounded_eq_stop_iff {stop : α} {course : Course α} (passes : course.PassesOn stop)
    {answer : Read → σ → Except EvalFault String × σ}
    (honest : ∀ read state, (answer read state).1 ≠ .error .circular) {maxReads : Nat}
    {depth : Depth} (reads : depth.reads < maxReads) (nodes : depth.nodes ≤ maxNodes) (state : σ) :
    ((course.bounded stop maxReads depth).run answer state).1 = stop ↔
      maxNodes < depth.nodes + course.deepest answer depth state := by
  -- The induction follows the one way that the answers take through the course.
  induction course generalizing state with
  | done result =>
    have other : result ≠ stop := passes
    simp only [bounded, Reading.run, deepest, other, false_iff]
    omega
  | enter level rest ih =>
    have later := ih passes state
    simp only [bounded, deepest]
    split
    · -- A course that is stopped here has this expression as the one too many.
      rename_i full
      simp only [Reading.run, true_iff]
      omega
    · rw [later]
      omega
  | ask address level next ih =>
    simp only [bounded, deepest]
    rw [if_neg (by omega)]
    exact ih _ (passes.2 _ (honest _ state)) _

/-- The first of two courses in turn has no more expressions in progress than both. -/
theorem deepest_le_bind (course : Course α) (after : α → Course β)
    (answer : Read → σ → Except EvalFault String × σ) (depth : Depth) (state : σ) :
    course.deepest answer depth state ≤ (course.bind after).deepest answer depth state := by
  -- The answers lead the same way through the first course as through both.
  induction course generalizing state with
  | done result => exact Nat.zero_le _
  | enter level rest ih =>
    have later := ih state
    simp only [bind, deepest]
    omega
  | ask address level next ih => exact ih _ _

/-- On no way through a course are more than so many expressions in progress. -/
def Within (bound : Nat) : Course α → Prop
  | .done _ => True
  | .enter level rest => level < bound ∧ rest.Within bound
  | .ask _ _ next => ∀ answer, (next answer).Within bound

/-- Two courses in turn have no more expressions in progress than each of them may have. -/
theorem Within.bind {bound : Nat} {course : Course α} {after : α → Course β}
    (first : course.Within bound) (second : ∀ result, (after result).Within bound) :
    (course.bind after).Within bound := by
  -- The second course comes when nothing of the first one is in progress any more.
  induction course with
  | done result => exact second result
  | enter level rest ih => exact ⟨first.1, ih first.2⟩
  | ask address level next ih => exact fun answer => ih answer (first answer)

/-- A bound may be raised. -/
theorem Within.mono {bound higher : Nat} {course : Course α} (within : course.Within bound)
    (raised : bound ≤ higher) : course.Within higher := by
  induction course with
  | done result => trivial
  | enter level rest ih => exact ⟨Nat.lt_of_lt_of_le within.1 raised, ih within.2⟩
  | ask address level next ih => exact fun answer => ih answer (within answer)

/-- Reading by address alone enters no expression. -/
theorem within_ofReading (bound level : Nat) (reading : Reading Address α) :
    (ofReading level reading).Within bound := by
  induction reading with
  | done result => trivial
  | ask address next ih => exact ih

/-- What bounds every way through a course bounds the one that answers take. -/
theorem Within.deepest_le {bound : Nat} {course : Course α} (within : course.Within bound)
    (answer : Read → σ → Except EvalFault String × σ) (depth : Depth) (state : σ) :
    course.deepest answer depth state ≤ bound := by
  -- The answers choose one way, and the bound holds on all of them.
  induction course generalizing state with
  | done result => exact Nat.zero_le _
  | enter level rest ih =>
    have later := ih within.2 state
    have here : level < bound := within.1
    simp only [deepest]
    omega
  | ask address level next ih => exact ih _ (within _) _

end Course

namespace Unlimited

variable {α β : Type}

/-- Entering an expression counts it with those around it. -/
theorem deepest_atNode {σ : Type} (level : Nat) (evaluation : Unlimited α)
    (answer : Read → σ → Except EvalFault String × σ) (depth : Depth) (state : σ) :
    (evaluation.atNode level).course.deepest answer depth state =
      max (level + 1) (evaluation.course.deepest answer depth state) :=
  rfl

/-- The first of two evaluations in turn has no more expressions in progress than both. -/
theorem deepest_le_bind {σ : Type} (first : Unlimited α) (second : α → Unlimited β)
    (answer : Read → σ → Except EvalFault String × σ) (depth : Depth) (state : σ) :
    first.course.deepest answer depth state ≤
      (first >>= second).course.deepest answer depth state := by
  rw [course_bind]
  exact first.course.deepest_le_bind (onward second) answer depth state

/-- An evaluation that never has more than so many expressions in progress. -/
def Within (bound : Nat) (evaluation : Unlimited α) : Prop :=
  evaluation.course.Within bound

/-- Two evaluations in turn have no more expressions in progress than each of them may have. -/
theorem Within.bind {bound : Nat} {first : Unlimited α} {second : α → Unlimited β}
    (within : first.Within bound) (then_within : ∀ value, (second value).Within bound) :
    (first >>= second).Within bound := by
  unfold Within at within ⊢
  rw [course_bind]
  refine within.bind fun result => ?_
  cases result with
  | ok value => exact then_within value
  | error fault => trivial

/-- A bound may be raised. -/
theorem Within.mono {bound higher : Nat} {evaluation : Unlimited α}
    (within : evaluation.Within bound) (raised : bound ≤ higher) : evaluation.Within higher :=
  Course.Within.mono within raised

/-- A result or a fault that is at hand has no expression in progress. -/
theorem within_ofExcept (bound : Nat) (result : Except EvalFault α) :
    Within bound (MonadLift.monadLift result : Unlimited α) :=
  trivial

/-- One more expression in progress counts where it is entered. -/
theorem Within.atNode {bound level : Nat} {evaluation : Unlimited α}
    (within : evaluation.Within bound) (entered : level < bound) :
    (evaluation.atNode level).Within bound :=
  ⟨entered, within⟩

end Unlimited

mutual

/-- The number of expressions on the longest way down an expression, itself counted. -/
def Expr.height : Expr → Nat
  | .literal _ | .cell _ | .range _ _ => 1
  | .binary _ left right => max left.height right.height + 1
  | .negation operand => operand.height + 1
  | .group inner => inner.height + 1
  | .call _ args => Expr.heightOfAll args + 1

/-- The height of the highest of some expressions. -/
def Expr.heightOfAll : List Expr → Nat
  | [] => 0
  | expr :: rest => max expr.height (heightOfAll rest)

end

/-- Every expression is at least as high as itself alone. -/
theorem Expr.lt_add_height (expr : Expr) (level : Nat) : level < level + expr.height := by
  cases expr <;> simp only [Expr.height] <;> omega

/-- Reading a referenced cell enters no expression. -/
theorem freeReference_within (self : Address) (bound level : Nat) (text : String) :
    (freeReference self level text).Within bound := by
  refine .bind (Unlimited.within_ofExcept bound _) fun address => ?_
  split
  · trivial
  · exact .bind (Course.within_ofReading bound level (.ask address .done)) fun shown => trivial

mutual

/-- An expression has no more expressions in progress than it is high. -/
theorem evaluateFreely_within (self : Address) (registry : Registry) : ∀ expr level,
    (evaluateFreely self registry level expr).Within (level + expr.height)
  | .literal value, level => by
    rw [evaluateFreely]
    exact .atNode (Unlimited.within_ofExcept _ (.ok value)) (Expr.lt_add_height _ level)
  | .cell text, level => by
    rw [evaluateFreely]
    exact .atNode (freeReference_within self _ _ text) (Expr.lt_add_height _ level)
  | .range first last, level => by
    rw [evaluateFreely]
    exact .atNode (Unlimited.within_ofExcept _ (resolveRange first last))
      (Expr.lt_add_height _ level)
  | .binary op left right, level => by
    rw [evaluateFreely]
    -- Each operand starts one level further down and is lower by one at least.
    refine .atNode (.bind ?_ fun leftValue => .bind ?_ fun rightValue => ?_)
      (Expr.lt_add_height _ level)
    · exact (evaluateFreely_within self registry left (level + 1)).mono
        (by simp only [Expr.height]; omega)
    · exact (evaluateFreely_within self registry right (level + 1)).mono
        (by simp only [Expr.height]; omega)
    · exact Unlimited.within_ofExcept _ (op.apply leftValue rightValue)
  | .negation operand, level => by
    rw [evaluateFreely]
    refine .atNode (.bind ?_ fun value => ?_) (Expr.lt_add_height _ level)
    · exact (evaluateFreely_within self registry operand (level + 1)).mono
        (by simp only [Expr.height]; omega)
    · exact Unlimited.within_ofExcept _ (negate value)
  | .group inner, level => by
    rw [evaluateFreely]
    refine .atNode ?_ (Expr.lt_add_height _ level)
    exact (evaluateFreely_within self registry inner (level + 1)).mono
      (by simp only [Expr.height]; omega)
  | .call name args, level => by
    rw [evaluateFreely]
    refine .atNode ?_ (Expr.lt_add_height _ level)
    cases registry.find? name with
    | none => trivial
    | some function =>
      refine .bind ?_ fun values => ?_
      · exact (evaluateAllFreely_within self registry args (level + 1)).mono
          (by simp only [Expr.height]; omega)
      · exact Course.within_ofReading _ (level + 1) (function.call self values)

/-- Some expressions in turn have no more expressions in progress than the highest is high. -/
theorem evaluateAllFreely_within (self : Address) (registry : Registry) : ∀ exprs level,
    (evaluateAllFreely self registry level exprs).Within (level + Expr.heightOfAll exprs)
  | [], level => by
    rw [evaluateAllFreely]
    trivial
  | expr :: rest, level => by
    rw [evaluateAllFreely]
    refine .bind ?_ fun value => .bind ?_ fun values => trivial
    · exact (evaluateFreely_within self registry expr level).mono
        (by simp only [Expr.heightOfAll]; omega)
    · exact (evaluateAllFreely_within self registry rest level).mono
        (by simp only [Expr.heightOfAll]; omega)

end

/-- The most expressions in progress at once in the evaluation of an expression that nothing stops,
with the built-in functions and under answers that thread a state. -/
def Expr.deepest {σ : Type} (expr : Expr) (self : Address)
    (answer : Read → σ → Except EvalFault String × σ) (state : σ) : Nat :=
  (evaluateFreely self Builtin.registry 0 expr).course.deepest answer ⟨0, 0⟩ state

/-- No more expressions are in progress at once than the expression is high. -/
theorem Expr.deepest_le_height {σ : Type} (expr : Expr) (self : Address)
    (answer : Read → σ → Except EvalFault String × σ) (state : σ) :
    expr.deepest self answer state ≤ expr.height := by
  have within := evaluateFreely_within self Builtin.registry expr 0
  rw [Nat.zero_add] at within
  exact Course.Within.deepest_le within answer ⟨0, 0⟩ state

/-- Each floor of a tower puts two expressions more in progress, the comparison and the group. -/
theorem Tower.le_deepest {σ : Type} (self : Address) (floors level : Nat)
    (answer : Read → σ → Except EvalFault String × σ) (depth : Depth) (state : σ) :
    level + 2 * floors + 1 ≤ (evaluateFreely self Builtin.registry level
      (expr floors)).course.deepest answer depth state := by
  -- Each floor starts two levels below the one around it.
  induction floors generalizing level with
  | zero =>
    rw [expr, evaluateFreely]
    exact Nat.le_max_left _ _
  | succ floors ih =>
    have inside := ih (level + 1 + 1)
    rw [expr, evaluateFreely, Unlimited.deepest_atNode]
    -- The group is evaluated first, and within the comparison.
    refine Nat.le_trans ?_ (Nat.le_trans (Unlimited.deepest_le_bind _ _ answer depth state)
      (Nat.le_max_right _ _))
    rw [evaluateFreely, Unlimited.deepest_atNode]
    omega

/-- A formula that parses is circular by itself exactly if its evaluation has more expressions in
progress at once than the ceiling allows, which it never has when the expression is no higher. -/
theorem parsed_circular_iff {σ : Type} {formula : String} {expr : Expr}
    (parsed : parse formula = .ok expr) (self : Address) {maxReads : Nat} (room : 1 ≤ maxReads)
    {answer : Read → σ → Except EvalFault String × σ}
    (honest : ∀ read state, (answer read state).1 ≠ .error .circular) (state : σ) :
    (((evaluateSource ⟨self, Builtin.registry, maxReads⟩ (source formula) ⟨0, 0⟩).run answer
        state).1.1 = .error (.eval .circular) ↔ maxNodes < expr.deepest self answer state) ∧
      expr.deepest self answer state ≤ expr.height := by
  refine ⟨?_, expr.deepest_le_height self answer state⟩
  -- The formula takes the course of its expression, with the fault told as one of the formula.
  have course : sourceCourse self Builtin.registry (source formula) =
      (evaluateFreely self Builtin.registry 0 expr).course.map staged := by
    have read : parseSource (source formula) = .ok expr := parsed
    simp only [sourceCourse, read]
  have left : ((evaluateFreely self Builtin.registry 0 expr).course.map staged).bounded
      (.error (.eval .circular)) maxReads ⟨0, 0⟩ = _ :=
    Course.bounded_map staged (.error .circular) maxReads ⟨0, 0⟩ _
  rw [evaluateSource_eq_bounded _ Builtin.registry_passesOn, course, left, Reading.bind_assoc,
    Reading.run_bind]
  -- The fault of the whole is circular exactly if that of the expression is.
  refine (staged_eq_circular_iff _).trans ?_
  have free : (evaluateFreely self Builtin.registry 0 expr).course.PassesOn (.error .circular) :=
    evaluateFreely_passesOn Builtin.registry_passesOn self expr 0
  have start : (⟨0, 0⟩ : Depth).reads < maxReads := room
  have stopped := Course.run_bounded_eq_stop_iff free honest start (Nat.zero_le _) state
  rwa [Nat.zero_add] at stopped

/-- The highest tower that parses is circular by itself where no cell can be read at all. -/
theorem parsed_circular_tower :
    parse (String.ofList (sigil :: Tower.text maxNesting)) = .ok (Tower.expr maxNesting) ∧
      ((evaluateSource ⟨⟨1, 1⟩, Builtin.registry, defaultMaxReads⟩
        (source (String.ofList (sigil :: Tower.text maxNesting))) ⟨0, 0⟩).run
        (fun _ state => (.error .outsideGrid, state)) ()).1.1 = .error (.eval .circular) := by
  have parsed := Tower.parse_text (Nat.le_refl maxNesting)
  -- With as many floors as may be nested there is one expression more than there is room for.
  have high : maxNodes < (Tower.expr maxNesting).deepest ⟨1, 1⟩
      (fun _ state => (.error .outsideGrid, state)) () :=
    Tower.le_deepest ⟨1, 1⟩ maxNesting 0 _ ⟨0, 0⟩ ()
  refine ⟨parsed, (parsed_circular_iff parsed ⟨1, 1⟩ (by decide) ?_ ()).1.mpr high⟩
  exact fun _ _ equal => nomatch equal

end Spreadsheet.Formula
