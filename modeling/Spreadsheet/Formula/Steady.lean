import Spreadsheet.Formula.Evaluation

/-! An evaluation gives back the depth it was given, and reads only deeper down. -/

namespace Spreadsheet.Formula

/-- A request made by an evaluation at a depth: one read further, and no higher in expressions. -/
structure Read.Below (depth : Depth) (read : Read) : Prop where
  reads : read.depth.reads = depth.reads + 1
  nodes : depth.nodes ≤ read.depth.nodes
  bounded : read.depth.nodes ≤ maxNodes

/-- An evaluation that ends at the depth it starts from and reads only below it. -/
def Evaluation.Steady {α : Type} (evaluation : Evaluation α) : Prop :=
  ∀ depth : Depth, depth.nodes ≤ maxNodes →
    (evaluation.startAt depth).Holds (Read.Below depth) (fun ended => ended.2 = depth)

namespace Evaluation.Steady

variable {α β : Type}

/-- An evaluation that reads nothing is steady. -/
theorem pure (value : α) : Steady (Pure.pure value : Evaluation α) :=
  fun _ _ => rfl

/-- An evaluation that fails at once is steady. -/
theorem throw (fault : EvalFault) : Steady (MonadExcept.throw fault : Evaluation α) :=
  fun _ _ => rfl

/-- A result or a fault that is at hand is steady. -/
theorem ofExcept (result : Except EvalFault α) :
    Steady (MonadLift.monadLift result : Evaluation α) :=
  fun _ _ => rfl

/-- Two steady evaluations in turn are steady. -/
theorem bind {first : Evaluation α} {second : α → Evaluation β} (steady : first.Steady)
    (then_steady : ∀ value, (second value).Steady) : Steady (first >>= second) := by
  intro depth bounded
  -- The second starts where the first ended, which is where the first started.
  refine Reading.Holds.bind (steady depth bounded) ?_
  rintro ⟨result, ended⟩ same
  subst same
  cases result with
  | error fault => rfl
  | ok value => exact then_steady value _ bounded

/-- A computation that reads by address alone is steady. -/
theorem ofReading (maxReads : Nat) (reading : Reading Address (Except EvalFault α)) :
    Steady (ofStart (Evaluation.ofReading maxReads reading)) := by
  intro depth bounded
  induction reading with
  | done result => rfl
  | ask address next ih =>
    simp only [startAt, ofStart, Evaluation.ofReading]
    split
    · exact ih _
    · exact ⟨⟨rfl, Nat.le_refl _, bounded⟩, ih⟩

/-- One more expression in progress keeps an evaluation steady and puts its reads deeper down. -/
theorem holds_atNode {evaluation : Evaluation α} (steady : evaluation.Steady) (depth : Depth) :
    ((Evaluation.atNode evaluation).startAt depth).Holds
      (fun read => read.Below depth ∧ depth.nodes < read.depth.nodes)
      (fun ended => ended.2 = depth) := by
  simp only [startAt, Evaluation.atNode, ofStart]
  split
  · rfl
  · rename_i room
    refine Reading.Holds.bind
      ((steady { depth with nodes := depth.nodes + 1 } (by simp; omega)).mono ?_
        (fun _ same => same)) ?_
    · exact fun read below =>
        ⟨⟨below.reads, Nat.le_of_succ_le below.nodes, below.bounded⟩, below.nodes⟩
    · rintro ⟨result, ended⟩ same
      -- Leaving the expression undoes what entering it did.
      simp_all [Reading.Holds, Pure.pure]

/-- One more expression in progress keeps an evaluation steady. -/
theorem atNode {evaluation : Evaluation α} (steady : evaluation.Steady) :
    Steady (Evaluation.atNode evaluation) :=
  fun depth _ => (holds_atNode steady depth).mono (fun _ below => below.1) (fun _ same => same)

end Evaluation.Steady

/-- Reading a referenced cell is steady. -/
theorem readReference_steady (scope : Scope) (text : String) :
    (scope.readReference text).Steady := by
  refine .bind (.ofExcept _) fun address => ?_
  split
  · exact .throw _
  · exact .bind (.ofReading _ _) fun shown => .pure _

mutual

/-- Evaluating an expression is a steady evaluation as one more expression in progress. -/
theorem evaluate_eq_atNode (scope : Scope) :
    ∀ expr, ∃ inner : Evaluation Value, inner.Steady ∧ evaluate scope expr = .atNode inner
  | .literal value => ⟨_, .pure value, by rw [evaluate]⟩
  | .cell text => ⟨_, readReference_steady scope text, by rw [evaluate]⟩
  | .range first last => ⟨_, .ofExcept (resolveRange first last), by rw [evaluate]; rfl⟩
  | .binary op left right => by
    -- Counting the node is left to the outside, so the inside is what the parts do in turn.
    refine ⟨_, ?_, by rw [evaluate]⟩
    exact .bind (evaluate_steady scope left) fun _ =>
      .bind (evaluate_steady scope right) fun _ => .ofExcept _
  | .negation operand => by
    refine ⟨_, ?_, by rw [evaluate]⟩
    exact .bind (evaluate_steady scope operand) fun _ => .ofExcept _
  | .group inner => ⟨_, evaluate_steady scope inner, by rw [evaluate]⟩
  | .call name args => by
    refine ⟨_, ?_, by rw [evaluate]⟩
    split
    · exact .throw _
    · exact .bind (evaluateAll_steady scope args) fun _ => .ofReading _ _

/-- Evaluating an expression is steady. -/
theorem evaluate_steady (scope : Scope) (expr : Expr) : (evaluate scope expr).Steady := by
  obtain ⟨inner, steady, same⟩ := evaluate_eq_atNode scope expr
  exact same ▸ .atNode steady

/-- Evaluating some expressions in turn is steady. -/
theorem evaluateAll_steady (scope : Scope) : ∀ exprs, (evaluateAll scope exprs).Steady
  | [] => by rw [evaluateAll]; exact .pure _
  | expr :: rest => by
    rw [evaluateAll]
    exact .bind (evaluate_steady scope expr) fun _ =>
      .bind (evaluateAll_steady scope rest) fun _ => .pure _

end

/-- An expression reads strictly deeper in expressions than where its evaluation starts. -/
theorem evaluate_reads_below (scope : Scope) (expr : Expr) (depth : Depth) :
    ((evaluate scope expr).startAt depth).Holds
      (fun read => read.Below depth ∧ depth.nodes < read.depth.nodes) (fun _ => True) := by
  obtain ⟨inner, steady, same⟩ := evaluate_eq_atNode scope expr
  rw [same]
  exact (steady.holds_atNode depth).mono (fun _ below => below) (fun _ _ => trivial)

end Spreadsheet.Formula
