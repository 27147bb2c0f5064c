import Spreadsheet.Proofs.Graph.Schedule
import Spreadsheet.Proofs.Sheet.Computation

/-! After a recalculation every formula shows what it comes to on the sheet as it then is, or is
marked as circular. -/

namespace Spreadsheet

open Formula (Builtin.registry EvalFault Fault Reading)

namespace Pass

variable {maxReads : Nat} {pass : Pass} {address : Address}

/-- A cell is known exactly if it is settled or holds no formula. -/
theorem known_eq_none_iff : pass.known address = none ↔
    pass.sheet.isFormula address = true ∧ pass.isSettled address = false := by
  simp [known]

/-- Before anything is settled the formulas are what is not known. -/
theorem known_start (sheet : Sheet) (address : Address) :
    (start sheet).known address = none ↔ (sheet.source? address).isSome = true := by
  -- No cell is settled yet, so only formulas are not known.
  rw [known_eq_none_iff]
  simp [start, isSettled, Sheet.isFormula]

/-- A pass starts sound, as nothing is settled. -/
theorem sound_start (maxReads : Nat) (sheet : Sheet) : Sound maxReads (start sheet) := by
  -- No formula is known yet, so there is nothing to show for any.
  intro address source text formula found
  have unknown := (known_start sheet address).mpr (by
    rw [show sheet.source? address = some source from formula]
    rfl)
  simp [unknown] at found

/-- A pass that has grown soundly and knows some cells. -/
structure Reached (maxReads : Nat) (before after : Pass) (cells : List Address) : Prop where
  grows : Grows before after
  sound : Sound maxReads after
  known : ∀ address ∈ cells, after.known address ≠ none

/-- Growing further keeps what is known, and adds what is known then. -/
theorem Reached.trans {middle before after : Pass} {cells more : List Address}
    (first : Reached maxReads before middle cells) (second : Reached maxReads middle after more) :
    Reached maxReads before after (cells ++ more) := by
  -- What the first part has settled stays so through the second.
  refine ⟨first.grows.trans second.grows, second.sound, fun address member unknown => ?_⟩
  rcases List.mem_append.mp member with old | new
  · exact first.known address old (second.grows.unknown unknown)
  · exact second.known address new unknown

/-- Marking a formula that is not known settles it. -/
theorem settleCircular_reached (sound : Sound maxReads pass)
    (unknown : pass.known address = none) :
    Reached maxReads pass (pass.settleCircular address) [address] := by
  -- The marker is one of the two things that a settled formula may show.
  obtain ⟨source, formula⟩ := exists_source_of_unknown unknown
  have grows := grows_settle unknown Formula.circularMarker
  refine ⟨⟨grows.sources, grows.known⟩, sound.settle unknown (.inl rfl), ?_⟩
  intro other member
  rw [List.mem_singleton.mp member]
  show (pass.settle address Formula.circularMarker).known address ≠ none
  rw [known_settle formula, if_pos rfl]
  simp

/-- Marking some formulas, each once, settles them. -/
theorem settleCirculars_reached {cells : List Address} (distinct : cells.Nodup)
    (sound : Sound maxReads pass) (unknown : ∀ address ∈ cells, pass.known address = none) :
    Reached maxReads pass (cells.foldl settleCircular pass) cells := by
  -- The formulas are different, so none of them is settled when its turn comes.
  induction cells generalizing pass with
  | nil => exact ⟨.refl pass, sound, fun _ member => nomatch member⟩
  | cons first rest ih =>
    obtain ⟨fresh, distinct⟩ := List.nodup_cons.mp distinct
    have firstUnknown := unknown first List.mem_cons_self
    have marked := settleCircular_reached sound firstUnknown
    refine marked.trans (ih distinct marked.sound fun other member => ?_)
    -- Marking one formula leaves the others as they were.
    obtain ⟨source, formula⟩ := exists_source_of_unknown firstUnknown
    have elsewhere : other ≠ first := fun same => fresh (same ▸ member)
    show (pass.settle first Formula.circularMarker).known other = none
    rw [known_settle formula, if_neg elsewhere]
    exact unknown other (List.mem_cons_of_mem _ member)

/-- Visiting a cell settles the formula it may hold. -/
theorem visit_reached (sound : Sound maxReads pass) (address : Address) :
    Reached maxReads pass (pass.visit maxReads address) [address] := by
  cases found : pass.known address with
  | none =>
    have unsettled : pass.isSettled address = false := (known_eq_none_iff.mp found).2
    have alone : Hang maxReads pass ∅ (insert address ∅) := fun _ member => nomatch member
    have computed : Computed maxReads ∅ address ⟨0, 0⟩ pass _ :=
      compute_spec sound found (fun member => nomatch member) alone
    rw [visit, unsettled]
    refine ⟨computed.grows, computed.sound, fun other member => ?_⟩
    rw [List.mem_singleton.mp member]
    -- Only within another computation would this one be given up.
    obtain ⟨_, inner⟩ | ⟨text, _, known⟩ := computed.ended
    · exact absurd inner (Nat.lt_irrefl 0)
    · simp [known]
  | some text =>
    -- A cell that is known is settled already, or holds no formula to compute.
    have same : pass.visit maxReads address = pass := by
      unfold visit
      split
      · rfl
      · rename_i unsettled
        cases formula : pass.sheet.source? address with
        | none => rw [compute_eq, formula]
        | some source =>
          have unknown := known_eq_none_iff.mpr
            ⟨Option.isSome_iff_exists.mpr ⟨source, formula⟩, Bool.eq_false_iff.mpr unsettled⟩
          simp [unknown] at found
    rw [same]
    refine ⟨.refl pass, sound, fun other member => ?_⟩
    rw [List.mem_singleton.mp member, found]
    simp

/-- Visiting some cells in turn settles the formulas that they hold. -/
theorem visits_reached (sound : Sound maxReads pass) (order : List Address) :
    Reached maxReads pass (order.foldl (visit maxReads) pass) order := by
  -- Each visit starts from where the one before has come to.
  induction order generalizing pass with
  | nil => exact ⟨.refl pass, sound, fun _ member => nomatch member⟩
  | cons first rest ih =>
    have visited := visit_reached sound first
    exact visited.trans (ih visited.sound)

end Pass

namespace Sheet

/-- What a cell shows, as an answer to a formula. -/
def shownAt (sheet : Sheet) (address : Address) : Except EvalFault String :=
  match sheet.cellAt address with
  | .ok cell => .ok cell.display
  | .error _ => .error .outsideGrid

/-- The value of a source in a cell when every text it reads is the one that the sheet shows. -/
def valueFrom (sheet : Sheet) (maxReads : Nat) (address : Address) (source : String) :
    Except Fault Value :=
  ((Formula.evaluateSource ⟨address, Builtin.registry, maxReads⟩ source ⟨0, 0⟩).run
    (fun read state => (sheet.shownAt read.address, state)) ()).1.1

/-- The pass of a recalculation when the cells on cycles are marked. -/
def marking (sheet : Sheet) : Pass :=
  sheet.graph.schedule.cyclic.foldl Pass.settleCircular (Pass.start sheet)

/-- The pass of a recalculation when the first cells of the order have been visited. -/
def visiting (sheet : Sheet) (maxReads : Nat) (cells : List Address) : Pass :=
  cells.foldl (Pass.visit maxReads) sheet.marking

/-- The pass that a recalculation ends in. -/
def recalculation (sheet : Sheet) (maxReads : Nat) : Pass :=
  sheet.visiting maxReads sheet.graph.schedule.order

variable {sheet : Sheet}

/-- The schedule of a sheet holds every formula once. -/
theorem perm_schedule : (sheet.graph.schedule.order ++ sheet.graph.schedule.cyclic).Perm
    sheet.graph.nodes :=
  graph_tidy.perm_parts

/-- No formula is scheduled twice. -/
theorem nodup_schedule :
    (sheet.graph.schedule.order ++ sheet.graph.schedule.cyclic).Nodup :=
  perm_schedule.nodup_iff.mpr graph_tidy.distinct

/-- The scheduled cells are those that hold formulas. -/
theorem mem_schedule {address : Address} :
    address ∈ sheet.graph.schedule.order ++ sheet.graph.schedule.cyclic ↔
      (sheet.source? address).isSome = true :=
  perm_schedule.mem_iff.trans mem_nodes_graph

/-- A recalculation gives the sheet that its pass ends with, and what the pass has counted. -/
theorem calculate_eq (sheet : Sheet) (maxReads : Nat) : sheet.calculate maxReads =
    ((sheet.recalculation maxReads).sheet, ⟨sheet.graph.size,
      (sheet.recalculation maxReads).calculated, (sheet.recalculation maxReads).errors,
      sheet.graph.schedule.cyclic.length⟩) := by
  -- A sheet without formulas is given back at once, and a pass over it would not change it.
  by_cases none : sheet.graph.isEmpty = true
  · -- Without formulas nothing is scheduled, and the pass is over before it starts.
    have entries : sheet.graph.entries = [] := List.isEmpty_iff.mp none
    have nodes : sheet.graph.nodes = [] := by simp [Graph.nodes, entries]
    have parts : (sheet.graph.schedule.order ++ sheet.graph.schedule.cyclic).Perm [] :=
      nodes ▸ perm_schedule
    obtain ⟨order, cyclic⟩ := List.append_eq_nil_iff.mp parts.eq_nil
    rw [calculate, if_pos none]
    simp [recalculation, visiting, marking, order, cyclic, Pass.start, Graph.size, entries]
  · rw [calculate, if_neg none]
    rfl

/-- Marking the cells on cycles settles them. -/
theorem marking_reached (sheet : Sheet) (maxReads : Nat) :
    Pass.Reached maxReads (Pass.start sheet) sheet.marking sheet.graph.schedule.cyclic :=
  Pass.settleCirculars_reached (List.nodup_append.mp nodup_schedule).2.1
    (Pass.sound_start maxReads sheet) fun address member => (Pass.known_start sheet address).mpr
      (mem_schedule.mp (List.mem_append_right _ member))

/-- Visiting cells settles the formulas that they hold. -/
theorem visiting_reached (sheet : Sheet) (maxReads : Nat) (cells : List Address) :
    Pass.Reached maxReads (Pass.start sheet) (sheet.visiting maxReads cells)
      (sheet.graph.schedule.cyclic ++ cells) :=
  (sheet.marking_reached maxReads).trans
    (Pass.visits_reached (sheet.marking_reached maxReads).sound cells)

/-- When a recalculation ends all cells are known. -/
theorem known_recalculation (sheet : Sheet) (maxReads : Nat) (address : Address) :
    (sheet.recalculation maxReads).known address =
      some ((sheet.recalculation maxReads).textAt address) := by
  have reached := sheet.visiting_reached maxReads sheet.graph.schedule.order
  cases found : (sheet.recalculation maxReads).known address with
  | some text => rw [Pass.textAt_of_known found]
  | none =>
    -- A cell that is not known would hold a formula, and all of these are scheduled.
    have formula := (Pass.known_start sheet address).mp (reached.grows.unknown found)
    have scheduled := List.mem_append.mp (mem_schedule.mpr formula)
    exact absurd found (reached.known address (List.mem_append.mpr scheduled.symm))

/-- A recalculation ends in a sound pass that knows all cells. -/
theorem exists_pass_calculate (sheet : Sheet) (maxReads : Nat) :
    ∃ pass : Pass, (sheet.calculate maxReads).1 = pass.sheet ∧
      Pass.Grows (Pass.start sheet) pass ∧ Pass.Sound maxReads pass ∧
      ∀ address, pass.known address = some (pass.textAt address) := by
  have reached := sheet.visiting_reached maxReads sheet.graph.schedule.order
  exact ⟨sheet.recalculation maxReads, by rw [calculate_eq], reached.grows, reached.sound,
    sheet.known_recalculation maxReads⟩

/-- After a recalculation the formulas are where they were, and each of them shows the circular
marker or what a sheet shows for its value, taken anew from the texts that the sheet shows then. -/
theorem calculate_fixpoint (sheet : Sheet) (maxReads : Nat) {address : Address} {source : String}
    (formula : sheet.source? address = some source) :
    let final := (sheet.calculate maxReads).1
    (∀ other, final.source? other = sheet.source? other) ∧
      (final.shownAt address = .ok Formula.circularMarker ∨
        final.shownAt address = .ok (Formula.shown (final.valueFrom maxReads address source))) := by
  intro final
  obtain ⟨pass, same, grows, sound, all⟩ := exists_pass_calculate sheet maxReads
  have final_eq : final = pass.sheet := same
  rw [final_eq]
  refine ⟨grows.sources, ?_⟩
  refine (sound address source _ ((grows.sources address).trans formula) (all address)).imp id ?_
  intro computed
  obtain ⟨result, ended, shows⟩ := computed
  -- With every cell known, the outlook of the formula is its value.
  have known : ∀ read, pass.answer? read = some (pass.textAt read.address) :=
    fun read => all read.address
  have outcome := Reading.advance_eq_done known (Pass.attempt maxReads address source ⟨0, 0⟩) ()
  have result_eq := Reading.done.inj (ended.symm.trans outcome)
  have attempt := Formula.displayed_evaluateSource ⟨address, Builtin.registry, maxReads⟩
    Formula.Builtin.registry_passesOn source ⟨0, 0⟩
  -- What is computed up to the text shown is what is shown for the value of the source.
  unfold Pass.attempt at result_eq
  rw [← attempt, Reading.run_bind] at result_eq
  rw [result_eq] at shows
  exact shows

/-- Two cells side by side: the first refers to the second, and the second holds a truth value. -/
def twoCells : Sheet := ⟨1, 2, #[⟨"=B1", ""⟩, ⟨"=True", ""⟩], rfl⟩

/-- The formula of the first of the two cells is still there and shows its value or the marker. -/
theorem calculate_fixpoint_twoCells :
    twoCells.source? ⟨1, 1⟩ = some "B1" ∧
      let final := (twoCells.calculate Formula.defaultMaxReads).1
      (∀ other, final.source? other = twoCells.source? other) ∧
        (final.shownAt ⟨1, 1⟩ = .ok Formula.circularMarker ∨ final.shownAt ⟨1, 1⟩ =
          .ok (Formula.shown (final.valueFrom Formula.defaultMaxReads ⟨1, 1⟩ "B1"))) := by
  have formula : twoCells.source? ⟨1, 1⟩ = some "B1" := by decide
  exact ⟨formula, calculate_fixpoint twoCells Formula.defaultMaxReads formula⟩

end Sheet

end Spreadsheet
