import Spreadsheet.Proofs.Sheet.Chains

/-! What a computation stores lasts: unless it is circular, it is the value that the formula has on
the sheet in the end. -/

namespace Spreadsheet

open Formula (Course Depth Fault Read Reading)

namespace Pass.Call

variable {maxReads : Nat} {busy : Set Address} {source : String} {outer inner call : Call}

/-- The run of a computation keeps what another one leaves that is started by it. -/
theorem grows_of_meets {address : Address} {depth : Depth} {pass : Pass}
    {course : Course (Except Fault String)}
    (going : Going maxReads busy address source depth course pass)
    (meets : (course.bounded (.error (.eval .circular)) maxReads depth).Meets (answer maxReads) pass
      ⟨inner.address, inner.depth⟩ inner.pass)
    (unknown : inner.pass.known inner.address = none) :
    Grows (inner.ending maxReads).2 ((course.bounded (.error (.eval .circular)) maxReads depth).run
      (answer maxReads) pass).2 := by
  -- The induction follows the course to the request, and from there on the pass grows.
  induction course generalizing pass with
  | done result => exact absurd meets Reading.not_meets_done
  | enter level rest ih =>
    simp only [Course.bounded] at meets ⊢
    split at meets
    · exact absurd meets Reading.not_meets_done
    · rename_i room
      rw [if_neg room]
      exact ih (going.enter room) meets
  | ask here level next ih =>
    simp only [Course.bounded] at meets ⊢
    split at meets
    · exact absurd meets Reading.not_meets_done
    · rename_i room
      let request : Read := ⟨here, ⟨depth.reads + 1, depth.nodes + level⟩⟩
      rw [if_neg room, Reading.run]
      cases found : pass.known here with
      | some text =>
        rw [answer_of_known request found]
        rcases Reading.meets_ask_iff.mp meets with ⟨same, stays⟩ | later
        · obtain rfl := eq_of_read same stays
          simp [found] at unknown
        · rw [answer_of_known request found] at later
          exact ih text (going.known room found) later
      | none =>
        rw [answer_of_unknown request found]
        have rest := stopped_or_going going room found
        rcases Reading.meets_ask_iff.mp meets with ⟨same, stays⟩ | later
        · -- This is the request, and the rest is run after it.
          obtain rfl := eq_of_read same stays
          rcases rest with stopped | further
          · show Grows _ (((next _).bounded _ _ _).run _ _).2
            rw [stopped]
            exact .refl _
          · exact (ran_of_going further).grows
        · -- Another computation is started first, and the request is made after its end.
          rw [answer_of_unknown request found] at later
          rcases rest with stopped | further
          · rw [stopped] at later
            exact absurd later Reading.not_meets_done
          · exact ih _ further later

/-- A computation that fits ends with what its run leaves, and may settle its own cell. -/
theorem Fits.grows_ending (fits : call.Fits maxReads busy)
    (formula : call.pass.sheet.source? call.address = some source) :
    Grows ((call.evaluation maxReads source).run (answer maxReads) call.pass).2
      (call.ending maxReads).2 := by
  have unknown := (fits.ran formula).unknown call.address (Set.mem_insert _ _)
  rw [ending_eq formula]
  obtain ⟨_, account, _⟩ := Accounts.conclude unknown call.depth.reads
    ((call.evaluation maxReads source).run (answer maxReads) call.pass).1
  exact account.grows

/-- A computation keeps what another one leaves that is started by it. -/
theorem Fits.grows_of_starts (fits : outer.Fits maxReads busy)
    (starts : outer.Starts maxReads inner) :
    Grows (inner.ending maxReads).2 (outer.ending maxReads).2 := by
  obtain ⟨source, formula, meets, isFormula, unsettled⟩ := starts
  refine Grows.trans ?_ (fits.grows_ending formula)
  rw [evaluation_eq] at meets ⊢
  exact grows_of_meets (.start fits.sound formula fits.unknown fits.hang outer.depth) meets
    (known_eq_none_iff.mpr ⟨isFormula, unsettled⟩)

end Pass.Call

namespace Sheet

variable {sheet : Sheet} {maxReads : Nat} {call : Pass.Call} {source : String}

/-- What a visit leaves lasts. -/
theorem Visits.ending_grows (visits : sheet.Visits maxReads call) :
    Pass.Grows (call.ending maxReads).2 (sheet.recalculation maxReads) := by
  obtain ⟨before, after, order, depth, pass, unsettled⟩ := visits
  have reached := sheet.visiting_reached maxReads before
  -- The rest of the order is visited from where the visit ends.
  have ending : (call.ending maxReads).2 =
      (sheet.visiting maxReads before).visit maxReads call.address := by
    rw [Pass.Call.ending, Pass.visit, ← pass, unsettled, depth]
    rfl
  have rest : sheet.recalculation maxReads = after.foldl (Pass.visit maxReads)
      ((sheet.visiting maxReads before).visit maxReads call.address) := by
    rw [recalculation, order, visiting, visiting, List.foldl_append, List.foldl_cons]
  rw [ending, rest]
  exact (Pass.visits_reached (Pass.visit_reached reached.sound call.address).sound after).grows

/-- What a computation of a recalculation leaves lasts. -/
theorem Makes.ending_grows (makes : sheet.Makes maxReads call) :
    Pass.Grows (call.ending maxReads).2 (sheet.recalculation maxReads) := by
  -- The induction goes from a visit along the computations that start one another.
  obtain ⟨visit, visits, within⟩ := makes
  induction within with
  | refl => exact visits.ending_grows
  | tail before starts ih =>
    obtain ⟨busy, fits⟩ := Makes.fits ⟨visit, visits, before⟩
    exact (fits.grows_of_starts starts).trans ih

/-- In the end every formula can be computed on its own, and comes to its value on the sheet. -/
theorem outlook_recalculation (sheet : Sheet) (maxReads : Nat) (address : Address)
    (source : String) : (sheet.recalculation maxReads).outlook maxReads address source =
      .done (Formula.displayed
        ((sheet.recalculation maxReads).sheet.valueFrom maxReads address source)) := by
  have attempt := Formula.displayed_evaluateSource
    ⟨address, Formula.Builtin.registry, maxReads⟩ Formula.Builtin.registry_passesOn source ⟨0, 0⟩
  have known : ∀ read, (sheet.recalculation maxReads).answer? read =
      some ((sheet.recalculation maxReads).textAt read.address) :=
    fun read => sheet.known_recalculation maxReads read.address
  rw [Pass.outlook, Reading.advance_eq_done known _ ()]
  unfold Pass.attempt
  rw [← attempt, Reading.run_bind]
  rfl

/-- A circular result is stored by a visit only. -/
theorem Makes.visits_of_circular (makes : sheet.Makes maxReads call)
    (stores : call.Stores maxReads (.error (.eval .circular))) : sheet.Visits maxReads call := by
  obtain ⟨visit, visits, within⟩ := makes
  rcases Relation.reflTransGen_iff_eq_or_transGen.mp within with rfl | within
  · exact visits
  · -- A computation within another one is a read further, and gives such a result up.
    obtain ⟨_, _, _, reads⟩ := visits.fits.within within
    obtain ⟨_, _, _, kept⟩ := stores
    exact absurd ⟨rfl, reads⟩ kept

/-- What is stored without being circular is the value of the formula on the sheet in the end. -/
theorem Makes.result_eq (makes : sheet.Makes maxReads call)
    (formula : sheet.source? call.address = some source) {result : Except Fault String}
    (stores : call.Stores maxReads result) (regular : result ≠ .error (.eval .circular)) :
    result = Formula.displayed
      ((sheet.recalculation maxReads).sheet.valueFrom maxReads call.address source) := by
  obtain ⟨same, stays, rfl, _⟩ := stores
  obtain ⟨busy, fits⟩ := makes.fits
  have ran := fits.ran stays
  have lasts := (fits.grows_ending stays).trans makes.ending_grows
  -- The formula has the same source in the end.
  have final : (sheet.recalculation maxReads).sheet.source? call.address = some same :=
    (lasts.sources call.address).trans ((ran.grows.sources call.address).trans stays)
  have there : (sheet.recalculation maxReads).sheet.source? call.address = some source :=
    ((sheet.visiting_reached maxReads _).grows.sources call.address).trans formula
  obtain rfl := Option.some.inj (final.symm.trans there)
  have done := lasts.outlook_done (ran.ended.resolve_left regular)
  rw [outlook_recalculation] at done
  exact (Reading.done.inj done).symm

/-- A cell without a formula shows after a recalculation what it has shown before. -/
theorem shownAt_calculate_of_plain {address : Address} {maxReads : Nat}
    (plain : sheet.source? address = none) :
    (sheet.calculate maxReads).1.shownAt address = sheet.shownAt address := by
  have reached := sheet.visiting_reached maxReads sheet.graph.schedule.order
  have known : (Pass.start sheet).known address = some (sheet.shownAt address) :=
    Pass.known_of_plain plain
  rw [calculate_eq]
  exact Pass.textAt_of_known (reached.grows.known _ _ known)

/-- A formula on no cycle shows what is stored for it. -/
theorem exists_stored {address : Address} (maxReads : Nat)
    (formula : sheet.source? address = some source) (offCycle : ¬ sheet.graph.OnCycle address) :
    ∃ call result, sheet.Makes maxReads call ∧ call.address = address ∧
      call.Stores maxReads result ∧
      (sheet.recalculation maxReads).sheet.shownAt address = .ok (Pass.rendered result) := by
  obtain ⟨stores, account, stored⟩ := sheet.accounts_recalculation maxReads
  -- The cell is not marked, so something is stored for it.
  have settled := (mem_stored account).mpr (Option.isSome_iff_exists.mpr ⟨source, formula⟩)
  have unmarked : address ∉ sheet.graph.schedule.cyclic := fun marked =>
    offCycle (graph_tidy.mem_circling.mp (Graph.mem_inRowOrder.mp marked))
  obtain ⟨⟨cell, result⟩, member, rfl⟩ :=
    List.mem_map.mp ((List.mem_append.mp settled).resolve_left unmarked)
  obtain ⟨call, makes, same, comesTo⟩ := (stored cell result).mp member
  exact ⟨call, result, makes, same, comesTo, Pass.textAt_of_known (account.shows _ member)⟩

/-- A formula on a cycle shows the circular marker. -/
theorem shownAt_of_onCycle {address : Address} (maxReads : Nat)
    (onCycle : sheet.graph.OnCycle address) :
    (sheet.recalculation maxReads).sheet.shownAt address = .ok Formula.circularMarker := by
  obtain ⟨_, account, _⟩ := sheet.accounts_recalculation maxReads
  have marked := known_marking (Graph.mem_inRowOrder.mpr (graph_tidy.mem_circling.mpr onCycle))
  exact Pass.textAt_of_known (account.grows.known _ _ marked)

end Sheet

end Spreadsheet
