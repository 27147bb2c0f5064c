import Spreadsheet.Proofs.Formula.Room

/-! The depth that an evaluation gives back when it ends, and how deep it reads on the way. -/

namespace Spreadsheet.Formula

namespace Evaluation

variable {α β : Type} {bound : Nat}

/-- An evaluation that ends at whatever depth it starts from, with a value as with a fault, and
reads from within no more than so many expressions of its own. -/
def Returns (bound : Nat) (evaluation : Evaluation α) : Prop :=
  ∀ depth : Depth, (evaluation.startAt depth).Holds
    (fun read => read.depth.nodes ≤ depth.nodes + bound) (fun ended => ended.2 = depth)

namespace Returns

/-- A value that is at hand leaves the depth as it is. -/
theorem pure (value : α) : Returns bound (Pure.pure value : Evaluation α) :=
  fun _ => rfl

/-- A fault that is thrown leaves the depth as it is. -/
theorem throw (fault : EvalFault) : Returns bound (MonadExcept.throw fault : Evaluation α) :=
  fun _ => rfl

/-- A result or a fault that is at hand leaves the depth as it is. -/
theorem ofExcept (result : Except EvalFault α) :
    Returns bound (MonadLift.monadLift result : Evaluation α) :=
  fun _ => rfl

/-- A bound may be raised. -/
theorem mono {higher : Nat} {evaluation : Evaluation α} (returns : evaluation.Returns bound)
    (raised : bound ≤ higher) : evaluation.Returns higher := by
  intro depth
  refine (returns depth).mono (fun read below => ?_) fun _ same => same
  omega

/-- Two evaluations in turn give the depth back if each of them does. -/
theorem bind {first : Evaluation α} {second : α → Evaluation β} (returns : first.Returns bound)
    (then_returns : ∀ value, (second value).Returns bound) : Returns bound (first >>= second) := by
  intro depth
  apply Reading.Holds.bind (returns depth)
  rintro ⟨result, ended⟩ same
  subst same
  -- A fault of the first ends both there and then, and the depth is back by then as well.
  cases result with
  | error fault => rfl
  | ok value => exact then_returns value _

/-- A computation that reads by address alone gives the depth back after each of its reads, one that
is refused included, and reads from within no expression of its own. -/
theorem ofReading (maxReads : Nat) (reading : Reading Address (Except EvalFault α)) :
    Returns 0 (ofStart (Evaluation.ofReading maxReads reading)) := by
  intro depth
  simp only [startAt, ofStart]
  induction reading with
  | done result => rfl
  | ask address next ih =>
    rw [Evaluation.ofReading]
    split
    · -- The ceiling answers with a fault in place of the cell, and nothing was counted.
      exact ih _
    · exact ⟨Nat.le_refl _, ih⟩

/-- One more expression in progress is counted while it is, and gives the depth back. -/
theorem atNode {evaluation : Evaluation α} (returns : evaluation.Returns bound) :
    Returns (bound + 1) (Evaluation.atNode evaluation) := by
  intro depth
  simp only [startAt, Evaluation.atNode, ofStart]
  -- Where the ceiling is reached the expression is not entered, and the depth stays.
  split
  · rfl
  · -- Whatever comes of the inside, one expression is left where one has been entered.
    apply Reading.Holds.bind (Q := fun ended => ended.2 = ⟨depth.reads, depth.nodes + 1⟩)
    · refine (returns ⟨depth.reads, depth.nodes + 1⟩).mono (fun read below => ?_) fun _ same => same
      dsimp only at below
      omega
    · rintro ⟨result, ended⟩ same
      dsimp only at same
      subst same
      rfl

end Returns

end Evaluation

/-- Reading a referenced cell gives the depth back. -/
theorem readReference_returns (scope : Scope) (text : String) :
    (scope.readReference text).Returns 0 := by
  refine .bind (.ofExcept _) fun address => ?_
  split
  · exact .throw _
  · exact .bind (.ofReading _ _) fun shown => .pure _

mutual

/-- Evaluating an expression gives the depth back, and reads from within no more expressions than it
is high. -/
theorem evaluate_returns (scope : Scope) : ∀ expr, (evaluate scope expr).Returns expr.height
  | .literal value => by
    rw [evaluate, Expr.height]
    exact .atNode (.pure value)
  | .cell text => by
    rw [evaluate, Expr.height]
    exact .atNode (readReference_returns scope text)
  | .range first last => by
    rw [evaluate, Expr.height]
    exact .atNode (.ofExcept (resolveRange first last))
  | .binary op left right => by
    rw [evaluate, Expr.height]
    -- The operands are evaluated one after the other, so the higher one decides.
    apply Evaluation.Returns.atNode
    apply Evaluation.Returns.bind
    · exact (evaluate_returns scope left).mono (Nat.le_max_left _ _)
    intro leftValue
    apply Evaluation.Returns.bind
    · exact (evaluate_returns scope right).mono (Nat.le_max_right _ _)
    intro rightValue
    exact .ofExcept (op.apply leftValue rightValue)
  | .negation operand => by
    rw [evaluate, Expr.height]
    exact .atNode (.bind (evaluate_returns scope operand) fun value => .ofExcept (negate value))
  | .group inner => by
    rw [evaluate, Expr.height]
    exact .atNode (evaluate_returns scope inner)
  | .call name args => by
    rw [evaluate, Expr.height]
    apply Evaluation.Returns.atNode
    cases scope.registry.find? name with
    | none => exact .throw _
    | some function =>
      apply Evaluation.Returns.bind (evaluateAll_returns scope args)
      intro values
      -- The body of the function is within the call itself and within none of the arguments.
      exact (Evaluation.Returns.ofReading _ _).mono (Nat.zero_le _)

/-- Evaluating some expressions in turn gives the depth back, and reads from within no more
expressions than the highest of them is high. -/
theorem evaluateAll_returns (scope : Scope) :
    ∀ exprs, (evaluateAll scope exprs).Returns (Expr.heightOfAll exprs)
  | [] => by
    rw [evaluateAll]
    exact .pure []
  | expr :: rest => by
    rw [evaluateAll, Expr.heightOfAll]
    -- The first one has given the depth back when the others start.
    apply Evaluation.Returns.bind
    · exact (evaluate_returns scope expr).mono (Nat.le_max_left _ _)
    intro value
    apply Evaluation.Returns.bind
    · exact (evaluateAll_returns scope rest).mono (Nat.le_max_right _ _)
    intro values
    exact .pure (value :: values)

end

/-- Whatever an expression is, whatever functions there are and whatever it is told about the cells,
texts or faults, its evaluation ends at the depth that it starts from; and every read that it makes
is one further than that, within one expression more at least and within no more of them than the
expression is high, nor more than the ceiling allows. -/
theorem evaluate_balanced {σ : Type} (scope : Scope) (expr : Expr) (depth : Depth)
    (answer : Read → σ → Except EvalFault String × σ) (state : σ) :
    (((evaluate scope expr).startAt depth).run answer state).1.2 = depth ∧
      ∀ read ∈ ((evaluate scope expr).startAt depth).requests answer state,
        read.depth.reads = depth.reads + 1 ∧ depth.nodes < read.depth.nodes ∧
          read.depth.nodes ≤ min (depth.nodes + expr.height) maxNodes := by
  have returns := evaluate_returns scope expr depth
  constructor
  · exact returns.of_run answer state
  · intro read member
    have high : read.depth.nodes ≤ depth.nodes + expr.height := returns.of_mem_requests member
    obtain ⟨below, deeper⟩ := (evaluate_reads_below scope expr depth).of_mem_requests member
    have allowed := below.bounded
    exact ⟨below.reads, deeper, by omega⟩

end Spreadsheet.Formula
