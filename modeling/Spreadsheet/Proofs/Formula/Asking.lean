import Spreadsheet.Proofs.Formula.Parsing
import Spreadsheet.Proofs.Formula.Source

/-! Which cells a formula asks for: those that its references name, and those of ranges that its
references span. -/

namespace Spreadsheet

/-- A value that is a range only if the range is allowed. -/
def Value.Spans (allowed : Range → Prop) (value : Value) : Prop :=
  ∀ range, value = .range range → allowed range

namespace Formula

variable {α β : Type} {P : Address → Prop} {allowed : Range → Prop}

namespace Course

/-- Every cell asked for satisfies `P` and every result satisfies `Q`, whatever the answers. -/
def Holds (P : Address → Prop) (Q : α → Prop) : Course α → Prop
  | .done result => Q result
  | .enter _ rest => rest.Holds P Q
  | .ask address _ next => P address ∧ ∀ answer, (next answer).Holds P Q

/-- What holds of a course, and of the one after each of its results, holds of both in turn. -/
theorem Holds.bind {Q : α → Prop} {Q' : β → Prop} {course : Course α} {after : α → Course β}
    (first : course.Holds P Q) (second : ∀ result, Q result → (after result).Holds P Q') :
    (course.bind after).Holds P Q' := by
  -- The second course starts where the first one is done.
  induction course with
  | done result => exact second result first
  | enter level rest ih => exact ih first
  | ask address level next ih => exact ⟨first.1, fun answer => ih answer (first.2 answer)⟩

/-- Cells that satisfy `P` and results that satisfy `Q` may be required to satisfy less. -/
theorem Holds.mono {P' : Address → Prop} {Q Q' : α → Prop} {course : Course α}
    (holds : course.Holds P Q) (cells : ∀ address, P address → P' address)
    (results : ∀ result, Q result → Q' result) : course.Holds P' Q' := by
  induction course with
  | done result => exact results result holds
  | enter level rest ih => exact ih holds
  | ask address level next ih =>
    exact ⟨cells address holds.1, fun answer => ih answer (holds.2 answer)⟩

/-- The course of a computation asks what the computation asks, and has its results. -/
theorem Holds.ofReading {Q : α → Prop} {reading : Reading Address α} (holds : reading.Holds P Q)
    (level : Nat) : (Course.ofReading level reading).Holds P Q := by
  -- The course goes on after every answer as the computation does.
  induction reading with
  | done result => exact holds
  | ask address next ih => exact ⟨holds.1, fun answer => ih answer (holds.2 answer)⟩

/-- What the ceilings leave of a course asks for no other cells. -/
theorem Holds.bounded {Q : α → Prop} {course : Course α} (holds : course.Holds P Q) (stop : α)
    (maxReads : Nat) (depth : Depth) :
    (course.bounded stop maxReads depth).Holds (fun read => P read.address) fun _ => True := by
  -- A ceiling may end the course early, and asks for nothing then.
  induction course with
  | done result => trivial
  | enter level rest ih =>
    simp only [Course.bounded]
    split
    · trivial
    · exact ih holds
  | ask address level next ih =>
    simp only [Course.bounded]
    split
    · trivial
    · exact ⟨holds.1, fun answer => ih answer (holds.2 answer)⟩

end Course

namespace Unlimited

/-- Every cell asked for satisfies `P` and every value satisfies `Q`, whatever the answers. -/
def Holds (P : Address → Prop) (Q : α → Prop) (evaluation : Unlimited α) : Prop :=
  evaluation.course.Holds P fun result => ∀ value, result = .ok value → Q value

namespace Holds

/-- A value that is at hand is asked of no cell. -/
theorem pure {Q : α → Prop} {value : α} (holds : Q value) :
    Holds P Q (Pure.pure value : Unlimited α) :=
  fun _ same => Except.ok.inj same ▸ holds

/-- A fault that is thrown is asked of no cell. -/
theorem throw {Q : α → Prop} (fault : EvalFault) :
    Holds P Q (MonadExcept.throw fault : Unlimited α) :=
  fun _ same => nomatch same

/-- A result or a fault that is at hand is asked of no cell. -/
theorem ofExcept {Q : α → Prop} {result : Except EvalFault α}
    (holds : ∀ value, result = .ok value → Q value) :
    Holds P Q (MonadLift.monadLift result : Unlimited α) :=
  holds

/-- What holds of an evaluation, and of the one after each of its values, holds of both in turn. -/
theorem bind {Q : α → Prop} {Q' : β → Prop} {first : Unlimited α} {second : α → Unlimited β}
    (holds : Holds P Q first) (then_holds : ∀ value, Q value → Holds P Q' (second value)) :
    Holds P Q' (first >>= second) := by
  unfold Holds at holds then_holds ⊢
  -- A fault of the first ends both, and asks for nothing more.
  rw [course_bind]
  refine Course.Holds.bind holds fun result satisfies => ?_
  cases result with
  | ok value => exact then_holds value (satisfies value rfl)
  | error fault => exact fun _ same => nomatch same

/-- An expression asks for what is asked within it. -/
theorem atNode {Q : α → Prop} {evaluation : Unlimited α} (holds : Holds P Q evaluation)
    (level : Nat) : Holds P Q (evaluation.atNode level) :=
  holds

/-- A computation asks for its cells within any number of expressions. -/
theorem ofReading {Q : α → Prop} {reading : Reading Address (Except EvalFault α)}
    (holds : reading.Holds P fun result => ∀ value, result = .ok value → Q value) (level : Nat) :
    Holds P Q (ofCourse (Course.ofReading level reading)) :=
  Course.Holds.ofReading holds level

end Holds

end Unlimited

section Values

/-- The text of a cell is no range. -/
theorem spans_ofCellText (text : String) : (Value.ofCellText text).Spans allowed := by
  intro range same
  -- The text is kept, or it is read as a number.
  unfold Value.ofCellText at same
  split at same
  · exact nomatch same
  · split at same <;> exact nomatch same

/-- No operator makes a range. -/
theorem spans_apply {op : BinaryOp} {left right value : Value}
    (applied : op.apply left right = .ok value) : value.Spans allowed := by
  intro range same
  subst same
  -- Every operator makes a number, a text or a truth value where it makes a value at all.
  cases op <;> cases left <;> cases right <;>
    simp [BinaryOp.apply, addValues, onNumbers] at applied

/-- No range is the opposite of a value. -/
theorem spans_negate {value result : Value} (negated : negate value = .ok result) :
    result.Spans allowed := by
  intro range same
  subst same
  cases value <;> simp [negate] at negated

/-- What is chosen is one of the arguments. -/
theorem spans_choose {args : List Value} {value : Value} (spans : ∀ arg ∈ args, arg.Spans allowed)
    (chosen : Builtin.choose args = .ok value) : value.Spans allowed := by
  unfold Builtin.choose at chosen
  split at chosen
  · obtain rfl := Except.ok.inj chosen
    -- The truth value that comes first decides between the next two.
    split
    · exact spans _ (by simp)
    · exact spans _ (by simp)
  · exact nomatch chosen
  · exact nomatch chosen

end Values

section Functions

/-- Adding up the rest of a range asks for the cells that a walk through it still comes to. -/
theorem Builtin.sumFrom_holds (range : Range) {count : Nat} {address : Address} (total : Float)
    (walked : ∀ cell ∈ ((⟨range, address, count⟩ : Range.Walk).take count).1, P cell) :
    (Builtin.sumFrom range count address total).Holds P fun result =>
      ∀ value, result = .ok value → value.Spans allowed := by
  -- Walking and adding up take their steps together.
  induction count generalizing address total with
  | zero =>
    intro value same range isRange
    obtain rfl := Except.ok.inj same
    exact nomatch isRange
  | succ count ih =>
    -- The walk comes to this cell and then goes on from the one after it.
    have here : P address := walked address List.mem_cons_self
    have later := fun total => @ih (range.after address) total fun cell member =>
      walked cell (List.mem_cons_of_mem address member)
    refine ⟨here, fun answer => ?_⟩
    cases answer with
    | error fault => exact fun _ same => nomatch same
    | ok text =>
      dsimp only
      split
      · exact later _
      · split
        · exact later _
        · exact fun _ same => nomatch same

/-- Adding up a range asks for its cells. -/
theorem Builtin.sum_holds {args : List Value}
    (walked : ∀ range, allowed range → ∀ cell ∈ range.cells, P cell)
    (spans : ∀ arg ∈ args, arg.Spans allowed) :
    (Builtin.sum args).Holds P fun result => ∀ value, result = .ok value → value.Spans allowed := by
  -- Without a range for the first argument nothing is asked for.
  cases args with
  | nil => exact fun _ same => nomatch same
  | cons arg others =>
    cases arg with
    | range range =>
      exact sumFrom_holds range 0.0 (walked range (spans _ List.mem_cons_self range rfl))
    | number _ | boolean _ | text _ => exact fun _ same => nomatch same

/-- A built-in function asks for the cells of its ranges only, and gives no other range. -/
theorem Builtin.call_holds {name : String} {function : Function}
    (found : Builtin.registry.find? name = some function) (self : Address) {args : List Value}
    (walked : ∀ range, allowed range → ∀ cell ∈ range.cells, P cell)
    (spans : ∀ arg ∈ args, arg.Spans allowed) :
    (function.call self args).Holds P fun result =>
      ∀ value, result = .ok value → value.Spans allowed := by
  -- There are two functions: one adds up its range, and the other one reads nothing.
  have either : function = sumFunction ∨ function = ifFunction := by
    have member := List.mem_of_find?_eq_some found
    simpa [Builtin.registry, Registry.insert, Registry.empty, ifFunction, sumFunction] using member
  unfold Function.call
  -- A call that is refused asks for nothing.
  split
  · exact fun _ same => by cases same
  · split
    · exact fun _ same => by cases same
    · rcases either with rfl | rfl
      · exact Builtin.sum_holds walked spans
      · exact fun value chosen => spans_choose spans chosen

end Functions

mutual

/-- The literals, the references and the ranges of an expression, from left to right. -/
def Expr.leaves : Expr → List Expr
  | .literal value => [.literal value]
  | .cell text => [.cell text]
  | .range first last => [.range first last]
  | .binary _ left right => left.leaves ++ right.leaves
  | .negation operand => operand.leaves
  | .group inner => inner.leaves
  | .call _ args => Expr.leavesOfAll args

/-- The literals, the references and the ranges of some arguments. -/
def Expr.leavesOfAll : List Expr → List Expr
  | [] => []
  | expr :: rest => expr.leaves ++ leavesOfAll rest

end

/-- A leaf of an expression in a cell leads only where it may: a range is an allowed one, and a
reference that is not to the cell itself satisfies `P`. -/
def Expr.Leads (self : Address) (P : Address → Prop) (allowed : Range → Prop) : Expr → Prop
  | .literal value => value.Spans allowed
  | .cell text => ∀ address, resolve text = .ok address → address ≠ self → P address
  | .range first last => ∀ value, resolveRange first last = .ok value → value.Spans allowed
  | _ => True

/-- Reading a referenced cell asks for that cell alone. -/
theorem freeReference_holds {self : Address} {text : String}
    (leads : (Expr.cell text).Leads self P allowed) (level : Nat) :
    (freeReference self level text).Holds P (Value.Spans allowed) := by
  -- The own cell is refused, and any other one that the text resolves to is read.
  refine .bind (Q := fun address => resolve text = .ok address) (.ofExcept fun _ same => same)
    fun address resolved => ?_
  split
  · exact .throw _
  · rename_i other
    have asked : (Unlimited.readCell level address).Holds P fun _ => True :=
      ⟨leads address resolved other, fun _ _ _ => trivial⟩
    exact .bind asked fun shown _ => .pure (spans_ofCellText shown)

section

variable {self : Address}

mutual

/-- An expression asks for cells that its leaves lead to, and its value is a range only if that is
allowed. -/
theorem evaluateFreely_holds (walked : ∀ range, allowed range → ∀ cell ∈ range.cells, P cell) :
    ∀ expr level, (∀ leaf ∈ expr.leaves, leaf.Leads self P allowed) →
    (evaluateFreely self Builtin.registry level expr).Holds P (Value.Spans allowed)
  | .literal value, level, leads => by
    rw [evaluateFreely]
    have spans : value.Spans allowed := leads (.literal value) List.mem_cons_self
    exact .atNode (.pure spans) level
  | .cell text, level, leads => by
    rw [evaluateFreely]
    exact .atNode (freeReference_holds (leads (.cell text) List.mem_cons_self) _) level
  | .range first last, level, leads => by
    rw [evaluateFreely]
    exact .atNode (.ofExcept (leads (.range first last) List.mem_cons_self)) level
  | .binary op left right, level, leads => by
    rw [evaluateFreely]
    obtain ⟨leftLeads, rightLeads⟩ := List.forall_mem_append.mp leads
    refine .atNode
      (.bind (evaluateFreely_holds walked left _ leftLeads) fun leftValue _ => ?_) level
    refine .bind (evaluateFreely_holds walked right _ rightLeads) fun rightValue _ => ?_
    exact .ofExcept fun value applied => spans_apply applied
  | .negation operand, level, leads => by
    rw [evaluateFreely]
    refine .atNode (.bind (evaluateFreely_holds walked operand _ leads) fun value _ => ?_) level
    exact .ofExcept fun result negated => spans_negate negated
  | .group inner, level, leads => by
    rw [evaluateFreely]
    exact .atNode (evaluateFreely_holds walked inner _ leads) level
  | .call name args, level, leads => by
    rw [evaluateFreely]
    refine .atNode ?_ level
    cases found : Builtin.registry.find? name with
    | none => exact .throw _
    | some function =>
      -- What the arguments are decides what the function may ask for.
      refine .bind (evaluateAllFreely_holds walked args _ leads) fun values spans => ?_
      exact .ofReading (Builtin.call_holds found self walked spans) _

/-- Some expressions in turn ask for cells that their leaves lead to. -/
theorem evaluateAllFreely_holds (walked : ∀ range, allowed range → ∀ cell ∈ range.cells, P cell) :
    ∀ exprs level, (∀ leaf ∈ Expr.leavesOfAll exprs, leaf.Leads self P allowed) →
    (evaluateAllFreely self Builtin.registry level exprs).Holds P
      fun values => ∀ value ∈ values, value.Spans allowed
  | [], level, _ => by
    rw [evaluateAllFreely]
    exact .pure fun _ member => nomatch member
  | expr :: rest, level, leads => by
    rw [evaluateAllFreely]
    obtain ⟨firstLeads, restLead⟩ := List.forall_mem_append.mp leads
    refine .bind (evaluateFreely_holds walked expr _ firstLeads) fun value spans => ?_
    refine .bind (evaluateAllFreely_holds walked rest _ restLead) fun values allSpan => ?_
    exact .pure (List.forall_mem_cons.mpr ⟨spans, allSpan⟩)

end

/-- A source that parses asks for cells that the leaves of its expression lead to. -/
theorem sourceCourse_holds {source : String}
    (walked : ∀ range, allowed range → ∀ cell ∈ range.cells, P cell)
    (leads : ∀ expr, parseSource source = .ok expr →
      ∀ leaf ∈ expr.leaves, leaf.Leads self P allowed) :
    (sourceCourse self Builtin.registry source).Holds P fun _ => True := by
  -- A text that is no expression asks for nothing.
  unfold sourceCourse
  cases parsed : parseSource source with
  | error fault => trivial
  | ok expr =>
    have asks : (evaluateFreely self Builtin.registry 0 expr).Holds P (Value.Spans allowed) :=
      evaluateFreely_holds walked expr 0 (leads expr parsed)
    -- What is made of the value asks for nothing more.
    exact Course.Holds.bind asks fun _ _ => trivial

/-- The same cells are asked for on the way to the text that a sheet shows. -/
theorem textCourse_holds {source : String}
    (walked : ∀ range, allowed range → ∀ cell ∈ range.cells, P cell)
    (leads : ∀ expr, parseSource source = .ok expr →
      ∀ leaf ∈ expr.leaves, leaf.Leads self P allowed) :
    (textCourse self Builtin.registry source).Holds P fun _ => True :=
  (sourceCourse_holds walked leads).bind fun _ _ => trivial

end

mutual

/-- What a leaf of an expression says is among what the expression says. -/
theorem Expr.signs_subset_of_mem_leaves {leaf : Expr} : ∀ {expr : Expr}, leaf ∈ expr.leaves →
    leaf.signs ⊆ expr.signs
  | .literal _, member | .cell _, member | .range _ _, member =>
    List.mem_singleton.mp member ▸ List.Subset.refl _
  | .binary _ left right, member => by
    -- Each operand says its part, with the operator in between.
    rw [Expr.signs]
    rcases List.mem_append.mp member with inLeft | inRight
    · exact List.Subset.trans (signs_subset_of_mem_leaves inLeft) (List.subset_append_left _ _)
    · exact List.Subset.trans (signs_subset_of_mem_leaves inRight)
        (List.Subset.trans (List.subset_cons_self _ _) (List.subset_append_right _ _))
  | .negation operand, member => by
    rw [Expr.signs]
    have inside : leaf.signs ⊆ operand.signs := signs_subset_of_mem_leaves member
    exact List.Subset.trans inside (List.subset_cons_self _ _)
  | .group inner, member => by
    rw [Expr.signs]
    have inside : leaf.signs ⊆ inner.signs := signs_subset_of_mem_leaves member
    exact List.Subset.trans inside
      (List.Subset.trans (List.subset_append_left _ _) (List.subset_cons_self _ _))
  | .call _ args, member => by
    rw [Expr.signs]
    have inside : leaf.signs ⊆ Expr.signsOfAll args := signs_subset_of_mem_leavesOfAll member
    exact List.Subset.trans inside (List.Subset.trans (List.subset_append_left _ _)
      (List.Subset.trans (List.subset_cons_self _ _) (List.subset_cons_self _ _)))

/-- What a leaf of some arguments says is among what the arguments say. -/
theorem Expr.signs_subset_of_mem_leavesOfAll {leaf : Expr} : ∀ {args : List Expr},
    leaf ∈ Expr.leavesOfAll args → leaf.signs ⊆ Expr.signsOfAll args
  | expr :: rest, member => by
    rcases List.mem_append.mp member with first | later
    · exact List.Subset.trans (signs_subset_of_mem_leaves first) (List.subset_append_left _ _)
    · have more : rest ≠ [] := by
        rintro rfl
        exact nomatch later
      rw [Expr.signsOfAll_cons expr more]
      exact List.Subset.trans (signs_subset_of_mem_leavesOfAll later)
        (List.Subset.trans (List.subset_cons_self _ _) (List.subset_append_right _ _))

end

end Formula

end Spreadsheet
