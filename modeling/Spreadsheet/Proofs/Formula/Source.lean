import Spreadsheet.Proofs.Formula.Unlimited

/-! Sources and what sheets show for them, as what the ceilings leave of their courses. -/

namespace Spreadsheet.Formula

/-- The result of an evaluation, with its fault as one of the formula. -/
def staged (result : Except EvalFault Value) : Except Fault Value :=
  result.mapError .eval

/-- The course of a source in a cell. -/
def sourceCourse (self : Address) (registry : Registry) (source : String) :
    Course (Except Fault Value) :=
  match parseSource source with
  | .error fault => .done (.error fault)
  | .ok expr =>
    (evaluateFreely self registry 0 expr).course.map staged

/-- The course of a source in a cell, up to the text that a sheet shows for it. -/
def textCourse (self : Address) (registry : Registry) (source : String) :
    Course (Except Fault String) :=
  (sourceCourse self registry source).map displayed

/-- The fault of a formula is circular exactly if that of its evaluation is. -/
theorem staged_eq_circular_iff (result : Except EvalFault Value) :
    staged result = .error (.eval .circular) ↔ result = .error .circular := by
  cases result with
  | ok value => exact iff_of_false (fun equal => nomatch equal) (fun equal => nomatch equal)
  | error fault =>
    show Except.error (Fault.eval fault) = .error (.eval .circular) ↔ _
    simp

/-- A sheet shows the circular fault only for the circular fault. -/
theorem displayed_eq_circular_iff (result : Except Fault Value) :
    displayed result = .error (.eval .circular) ↔ result = .error (.eval .circular) := by
  cases result with
  | error fault => simp [displayed]
  | ok value =>
    -- A range is refused with another fault, and every other value has a text.
    refine iff_of_false ?_ (fun equal => nomatch equal)
    cases value <;> exact fun equal => nomatch equal

/-- The value of a source is what the ceilings leave of its course. -/
theorem evaluateSource_eq_bounded (scope : Scope) (passes : scope.registry.PassesOn)
    (source : String) (depth : Depth) :
    evaluateSource scope source depth =
      ((sourceCourse scope.self scope.registry source).bounded (.error (.eval .circular))
        scope.maxReads depth).bind fun result => .done (result, depth) := by
  -- A source that does not parse takes no course, and any other one that of its expression.
  unfold evaluateSource sourceCourse
  cases parseSource source with
  | error fault => rfl
  | ok expr =>
    -- The whole expression is evaluated within no other.
    have cut : Evaluation.Cuts scope.maxReads depth 0 (evaluate scope expr) _ :=
      evaluate_cuts passes expr 0
    unfold Evaluation.Cuts at cut
    have left : ((evaluateFreely scope.self scope.registry 0 expr).course.map staged).bounded
        (.error (.eval .circular)) scope.maxReads depth = _ :=
      Course.bounded_map staged (.error .circular) scope.maxReads depth _
    show ((evaluate scope expr).startAt (Evaluation.within depth 0)).bind _ = _
    rw [cut, left, Reading.bind_assoc, Reading.bind_assoc]
    rfl

/-- A source is circular only after a circular answer, and after every circular answer. -/
theorem sourceCourse_passesOn {registry : Registry} (passes : registry.PassesOn)
    (self : Address) (source : String) :
    (sourceCourse self registry source).PassesOn (.error (.eval .circular)) := by
  unfold sourceCourse
  cases parsed : parseSource source with
  | error fault =>
    -- A text that is no expression is refused before anything is evaluated.
    intro equal
    obtain rfl : fault = .eval .circular := by simpa using equal
    unfold parseSource at parsed
    cases scanned : tokenize source with
    | error fault => simp [scanned] at parsed
    | ok tokens =>
      simp only [scanned] at parsed
      cases read : parseTokens tokens with
      | error fault =>
        rw [read] at parsed
        exact nomatch parsed
      | ok expr =>
        rw [read] at parsed
        exact nomatch parsed
  | ok expr =>
    have free : (evaluateFreely self registry 0 expr).course.PassesOn (.error .circular) :=
      evaluateFreely_passesOn passes self expr 0
    exact free.map fun result circular => (staged_eq_circular_iff result).1 circular

/-- What a sheet shows is circular only after a circular answer, and after every such answer. -/
theorem textCourse_passesOn {registry : Registry} (passes : registry.PassesOn) (self : Address)
    (source : String) : (textCourse self registry source).PassesOn (.error (.eval .circular)) :=
  (sourceCourse_passesOn passes self source).map fun result circular =>
    (displayed_eq_circular_iff result).1 circular

/-- What a sheet shows for a source is what the ceilings leave of the course up to its text. -/
theorem displayed_evaluateSource (scope : Scope) (passes : scope.registry.PassesOn)
    (source : String) (depth : Depth) :
    ((evaluateSource scope source depth).bind fun ended => .done (displayed ended.1)) =
      (textCourse scope.self scope.registry source).bounded (.error (.eval .circular))
        scope.maxReads depth := by
  -- The text that is shown depends on the result alone.
  have left : (textCourse scope.self scope.registry source).bounded (.error (.eval .circular))
      scope.maxReads depth = _ :=
    Course.bounded_map displayed (.error (.eval .circular)) scope.maxReads depth _
  rw [evaluateSource_eq_bounded scope passes, left, Reading.bind_assoc]
  rfl

end Spreadsheet.Formula
