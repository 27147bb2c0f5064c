import Spreadsheet.Proofs.Formula.Ceiling
import Spreadsheet.Proofs.Formula.Requests

/-! What the ceilings leave of a run: the whole of it, or its beginning and then the circular
fault. -/

namespace Spreadsheet.Formula

/-- Answers a request by its cell alone, whatever depth it is made from. -/
def byCell {σ : Type} (answer : Address → σ → Except EvalFault String × σ) (read : Read) :
    σ → Except EvalFault String × σ :=
  answer read.address

/-- A computation under the ceilings comes to the same end as one without them, by way of the same
cells in the same order. -/
structure Follows {σ α : Type} (limited : Reading Read α) (free : Reading Address α)
    (answer : Address → σ → Except EvalFault String × σ) (state : σ) : Prop where
  run : limited.run (byCell answer) state = free.run answer state
  cells : (limited.requests (byCell answer) state).map Read.address = free.requests answer state

namespace Course

variable {σ α β : Type} {stop : α} {course : Course α} {maxReads : Nat} {depth : Depth}

/-- The computation that a course is when nothing stops it and nobody counts expressions. -/
def free : Course α → Reading Address α
  | .done result => .done result
  | .enter _ rest => rest.free
  | .ask address _ next => .ask address fun answer => (next answer).free

/-- Without ceilings, too, one course comes after another. -/
theorem free_bind (course : Course α) (after : α → Course β) :
    (course.bind after).free = course.free.bind fun result => (after result).free := by
  induction course with
  | done result => rfl
  | enter level rest ih => exact ih
  | ask address level next ih => simp only [bind, free, Reading.bind, ih]

variable (stop maxReads depth) (answer : Address → σ → Except EvalFault String × σ)

/-- Under the ceilings a course goes all its way, or it is stopped. -/
theorem follows_or_stop (course : Course α) (state : σ) :
    Follows (course.bounded stop maxReads depth) course.free answer state ∨
      ((course.bounded stop maxReads depth).run (byCell answer) state).1 = stop := by
  -- The two runs go side by side up to where a ceiling is in the way of one of them.
  induction course generalizing state with
  | done result => exact .inl ⟨rfl, rfl⟩
  | enter level rest ih =>
    simp only [bounded]
    split
    · exact .inr rfl
    · exact ih state
  | ask address level next ih =>
    simp only [bounded]
    split
    · exact .inr rfl
    · -- Both are told the same text, and one has the same cell to its name as the other.
      rcases ih (answer address state).1 (answer address state).2 with ⟨run, cells⟩ | stopped
      · exact .inl ⟨run, congrArg (address :: ·) cells⟩
      · exact .inr stopped

/-- Under the ceilings a course reads the first of the cells that it reads without them. -/
theorem requests_bounded_prefix (course : Course α) (state : σ) :
    ((course.bounded stop maxReads depth).requests (byCell answer) state).map Read.address <+:
      course.free.requests answer state := by
  -- At a ceiling no more cells are read, and until then the course goes the same way.
  induction course generalizing state with
  | done result => exact List.prefix_rfl
  | enter level rest ih =>
    simp only [bounded]
    split
    · exact List.nil_prefix
    · exact ih state
  | ask address level next ih =>
    simp only [bounded]
    split
    · exact List.nil_prefix
    · exact (List.prefix_cons_inj address).mpr (ih _ _)

/-- A course with room for all that it may have in progress is not stopped. -/
theorem Within.follows {bound : Nat} (within : course.Within bound) (reads : depth.reads < maxReads)
    (nodes : depth.nodes + bound ≤ maxNodes) (state : σ) :
    Follows (course.bounded stop maxReads depth) course.free answer state := by
  -- Neither ceiling is in the way at any step.
  induction course generalizing state with
  | done result => exact ⟨rfl, rfl⟩
  | enter level rest ih =>
    obtain ⟨here, within⟩ := within
    simp only [bounded]
    rw [if_neg (by omega)]
    exact ih within state
  | ask address level next ih =>
    simp only [bounded]
    rw [if_neg (by omega)]
    obtain ⟨run, cells⟩ := ih (answer address state).1 (within _) (answer address state).2
    exact ⟨run, congrArg (address :: ·) cells⟩

end Course

/-- The evaluation of an expression in a cell by the rules of evaluation alone, with the built-in
functions and without ceilings. -/
def Expr.unlimited (expr : Expr) (self : Address) : Reading Address (Except EvalFault Value) :=
  (evaluateFreely self Builtin.registry 0 expr).course.free

/-- An evaluation is the whole of what it is without the ceilings, or it ends circular; in either
case the cells it reads are the first of those that it reads without them; and it is the whole where
there is room for one more read and for as many expressions as the expression is high. -/
theorem evaluate_follows {σ : Type} (expr : Expr) (self : Address) (maxReads : Nat) (depth : Depth)
    (answer : Address → σ → Except EvalFault String × σ) (state : σ) :
    let limited := (evaluate ⟨self, Builtin.registry, maxReads⟩ expr).startAt depth
    let free := (expr.unlimited self).bind fun result => .done (result, depth)
    (Follows limited free answer state ∨
        (limited.run (byCell answer) state).1 = (.error .circular, depth)) ∧
      (limited.requests (byCell answer) state).map Read.address <+: free.requests answer state ∧
      (depth.nodes + expr.height ≤ maxNodes → depth.reads < maxReads →
        Follows limited free answer state) := by
  intro limited free
  let course := (evaluateFreely self Builtin.registry 0 expr).course
  let whole : Course (Except EvalFault Value × Depth) := course.map fun result => (result, depth)
  -- The depth that is given back is that of the start, so it may be added to the course.
  have cut : limited = whole.bounded (.error .circular, depth) maxReads depth := by
    have cuts := @evaluate_cuts ⟨self, Builtin.registry, maxReads⟩ depth Builtin.registry_passesOn
      expr 0
    unfold Evaluation.Cuts at cuts
    have mapped : whole.bounded (.error .circular, depth) maxReads depth = _ :=
      Course.bounded_map (fun result => (result, depth)) (.error .circular) maxReads depth course
    rw [mapped]
    exact cuts
  have uncut : free = whole.free :=
    (Course.free_bind course fun result => .done (result, depth)).symm
  have within : whole.Within expr.height := by
    have bound := evaluateFreely_within self Builtin.registry expr 0
    rw [Nat.zero_add] at bound
    exact Course.Within.bind bound fun _ => trivial
  rw [cut, uncut]
  exact ⟨Course.follows_or_stop _ maxReads depth answer whole state,
    Course.requests_bounded_prefix _ maxReads depth answer whole state,
    fun nodes reads => within.follows _ maxReads depth answer reads nodes state⟩

/-- Two expressions more have room at a depth of all but two; the one cell that they read is read,
and the answerer has counted it. -/
theorem evaluate_follows_joined :
    let expr := Expr.binary .add (.cell "B1") (.literal (.text "!"))
    let answer := fun (_ : Address) (reads : Nat) =>
      ((.ok "red", reads + 1) : Except EvalFault String × Nat)
    let limited := (evaluate ⟨⟨1, 1⟩, Builtin.registry, 8⟩ expr).startAt ⟨7, 510⟩
    510 + expr.height ≤ maxNodes ∧
      limited.run (byCell answer) 0 = ((.ok (.text "red!"), ⟨7, 510⟩), 1) ∧
      (limited.requests (byCell answer) 0).map Read.address = [⟨1, 2⟩] := by
  intro expr answer limited
  obtain ⟨run, cells⟩ :=
    (evaluate_follows expr ⟨1, 1⟩ 8 ⟨7, 510⟩ answer 0).2.2 (by decide) (by decide)
  exact ⟨by decide, run, cells⟩

end Spreadsheet.Formula
