import Spreadsheet.Proofs.Graph.Parts

/-! A schedule holds every formula cell once, tells the cells on cycles from the others, and puts
every cell after what it refers to, except that cells between cycles stay as they were entered. -/

namespace Spreadsheet.Graph

variable {graph : Graph}

/-- Two cells of a list stand in it one way or the other. -/
theorem sublist_pair_or {cells : List Address} {first second : Address} (firstMem : first ∈ cells)
    (secondMem : second ∈ cells) (distinct : first ≠ second) :
    [first, second].Sublist cells ∨ [second, first].Sublist cells := by
  -- The list is split at the first cell, and the second one is on one of the two sides.
  obtain ⟨before, after, rfl⟩ := List.append_of_mem firstMem
  rcases List.mem_append.mp secondMem with early | late
  · have pair := (List.singleton_sublist.mpr early).append
      (List.singleton_sublist.mpr (List.mem_cons_self (a := first) (l := after)))
    exact Or.inr pair
  · have later : second ∈ after := (List.mem_cons.mp late).resolve_left (Ne.symm distinct)
    have pair := (List.singleton_sublist.mpr later).cons_cons first
    exact Or.inl (pair.trans (List.sublist_append_right _ _))

/-- In a list without repetitions two cells stand in one way only. -/
theorem not_sublist_pair {cells : List Address} (distinct : cells.Nodup) {first second : Address}
    (pair : [first, second].Sublist cells) : ¬ [second, first].Sublist cells := by
  intro swapped
  -- Places grow along both pairs.
  have grows : ∀ {one other : Address}, [one, other].Sublist cells →
      cells.idxOf one < cells.idxOf other := by
    intro one other sub
    obtain ⟨before, after, split, first, second⟩ := List.cons_sublist_iff.mp sub
    have oneAbsent : other ∉ before := by
      intro repeated
      have apart := List.nodup_append.mp (split ▸ distinct)
      exact apart.2.2 other repeated other (List.singleton_sublist.mp second) rfl
    rw [split, List.idxOf_append_of_mem first, List.idxOf_append_of_notMem oneAbsent]
    exact Nat.lt_add_right _ (List.idxOf_lt_length_of_mem first)
  exact Nat.lt_asymm (grows pair) (grows swapped)

/-- A list along which a relation never leads onwards puts what is led to first. -/
theorem sublist_pair_of_pairwise {cells : List Address} {leads : Address → Address → Prop}
    (ordered : cells.Pairwise fun earlier later => ¬ leads earlier later) {cell other : Address}
    (cellMem : cell ∈ cells) (otherMem : other ∈ cells) (distinct : cell ≠ other)
    (related : leads cell other) : [other, cell].Sublist cells := by
  -- The other way round the list would rule the relation out.
  rcases sublist_pair_or cellMem otherMem distinct with wrong | right
  · exact absurd related (List.pairwise_iff_forall_sublist.mp ordered wrong)
  · exact right

/-- The parts of a schedule are all formula cells. -/
theorem Tidy.perm_parts (tidy : Tidy graph) :
    (graph.peeled ++ graph.between ++ graph.drained.reverse ++ inRowOrder graph.circling).Perm
      graph.nodes := by
  -- Every part is split off from what the parts before it have left.
  have circlingNodup : graph.circling.Nodup := tidy.nodup_core.filter _
  have cyclic : (inRowOrder graph.circling).Perm graph.circling :=
    (List.perm_ext_iff_of_nodup (nodup_of_pairwise_before (pairwise_inRowOrder _))
      circlingNodup).mpr fun _ => mem_inRowOrder
  have ofCore : (graph.circling ++ graph.between).Perm graph.core :=
    perm_append_without tidy.nodup_core circlingNodup fun _ member =>
      tidy.core_of_cycle (onCycle_iff.mp (tidy.mem_circling.mp member))
  have ofPending : (graph.peeled ++ graph.core).Perm graph.pending :=
    perm_append_without tidy.nodup_pending tidy.peeled_spec.distinct fun _ member =>
      (tidy.mem_peeled.mp member).1
  have ofNodes : (graph.drained ++ graph.pending).Perm graph.nodes :=
    perm_append_without tidy.distinct tidy.drained_spec.distinct fun _ member =>
      (tidy.mem_drained.mp member).1
  calc graph.peeled ++ graph.between ++ graph.drained.reverse ++ inRowOrder graph.circling
    _ |>.Perm (graph.peeled ++ graph.between ++ graph.drained ++ graph.circling) :=
      ((List.reverse_perm _).append_left _).append cyclic
    _ |>.Perm (graph.drained ++ (graph.peeled ++ (graph.circling ++ graph.between))) := by
      rw [List.perm_iff_count]
      intro cell
      simp only [List.count_append]
      omega
    _ |>.Perm (graph.drained ++ (graph.peeled ++ graph.core)) :=
      (ofCore.append_left _).append_left _
    _ |>.Perm (graph.drained ++ graph.pending) := ofPending.append_left _
    _ |>.Perm graph.nodes := ofNodes

/-- Every formula cell is scheduled once, either for its turn or as one on a cycle; cells on cycles
are exactly those that another cell leads to and is led to from; and these are in row order. -/
theorem schedule_exact (edits : List Edit) :
    let graph := ofEdits edits
    let schedule := graph.schedule
    (schedule.order ++ schedule.cyclic).Perm graph.nodes ∧
      (schedule.order ++ schedule.cyclic).Nodup ∧
      (∀ cell, cell ∈ schedule.cyclic ↔ graph.OnCycle cell) ∧
      schedule.cyclic.Pairwise Address.Before := by
  intro graph schedule
  have tidy : Tidy graph := ofEdits_tidy edits
  have perm : (schedule.order ++ schedule.cyclic).Perm graph.nodes := tidy.perm_parts
  refine ⟨perm, perm.nodup_iff.mpr tidy.distinct, ?_, pairwise_inRowOrder _⟩
  exact fun cell => mem_inRowOrder.trans tidy.mem_circling

/-- The cells that take their turn are those of three parts. -/
theorem mem_order {cell : Address} : cell ∈ graph.schedule.order ↔
    (cell ∈ graph.peeled ∨ cell ∈ graph.between) ∨ cell ∈ graph.drained := by
  simp only [schedule_eq, List.mem_append, List.mem_reverse]

/-- A cell between cycles is pending. -/
theorem pending_of_between {cell : Address} (member : cell ∈ graph.between) :
    cell ∈ graph.pending :=
  (mem_core.mp (mem_without.mp member).1).1

/-- A cell takes its turn after what it refers to, unless both are between cycles. -/
theorem Tidy.sublist_order (tidy : Tidy graph) {cell other : Address}
    (cellMem : cell ∈ graph.schedule.order) (otherMem : other ∈ graph.schedule.order)
    (refers : graph.Refers cell other)
    (apart : ¬ (cell ∈ graph.between ∧ other ∈ graph.between)) :
    [other, cell].Sublist graph.schedule.order := by
  have distinct := refers.distinct
  -- The order has three parts, and what a cell refers to stands in the same part or an earlier one.
  rcases mem_order.mp cellMem with pending | drained
  · -- What a pending cell refers to is pending, too.
    have undrained : cell ∉ graph.drained := by
      rcases pending with peeled | between
      · exact (mem_pending.mp (tidy.mem_peeled.mp peeled).1).2
      · exact (mem_pending.mp (pending_of_between between)).2
    have otherUndrained := tidy.not_drained_of_path (.single refers) undrained
    have early : (graph.peeled ++ graph.between).Sublist graph.schedule.order :=
      List.sublist_append_left _ _
    rcases pending with peeled | between
    · have otherPending := mem_pending.mpr ⟨refers.other_mem, otherUndrained⟩
      have otherPeeled := (tidy.mem_peeled.mp peeled).2 other otherPending refers
      have pair := sublist_pair_of_pairwise tidy.pairwise_peeled peeled otherPeeled distinct refers
      exact (pair.trans (List.sublist_append_left _ _)).trans early
    · have otherPeeled : other ∈ graph.peeled := by
        rcases (mem_order.mp otherMem).resolve_right otherUndrained with peeled | otherBetween
        · exact peeled
        · exact absurd ⟨between, otherBetween⟩ apart
      exact ((List.singleton_sublist.mpr otherPeeled).append
        (List.singleton_sublist.mpr between)).trans early
  · rcases mem_order.mp otherMem with otherPending | otherDrained
    · exact (List.singleton_sublist.mpr (List.mem_append.mpr otherPending)).append
        (List.singleton_sublist.mpr (List.mem_reverse.mpr drained))
    · -- The drained cells were taken referring cells first, and come in reverse.
      have ordered := List.pairwise_reverse.mpr tidy.pairwise_drained
      have pair := sublist_pair_of_pairwise ordered (List.mem_reverse.mpr drained)
        (List.mem_reverse.mpr otherDrained) distinct refers
      exact pair.trans (List.sublist_append_right _ _)

/-- The cells between cycles take their turns as they were entered. -/
theorem between_sublist_nodes : graph.between.Sublist graph.nodes :=
  ((without_sublist _ _).trans (without_sublist _ _)).trans (without_sublist _ _)

/-- A formula cell that is on no cycle takes its turn. -/
theorem Tidy.mem_order_of_not_onCycle (tidy : Tidy graph) {cell : Address}
    (member : cell ∈ graph.nodes) (offCycle : ¬ graph.OnCycle cell) :
    cell ∈ graph.schedule.order := by
  have parts : (graph.schedule.order ++ graph.schedule.cyclic).Perm graph.nodes := tidy.perm_parts
  refine (List.mem_append.mp (parts.mem_iff.mpr member)).resolve_right fun cyclic => ?_
  exact offCycle (tidy.mem_circling.mp (mem_inRowOrder.mp cyclic))

/-- A cell that is on no cycle takes its turn after each cell that it refers to and that is apart
from cycles. -/
theorem Tidy.mem_before_of_refers (tidy : Tidy graph) {cell other : Address}
    (offCycle : ¬ graph.OnCycle cell) (apart : graph.Apart other) {before after : List Address}
    (split : graph.schedule.order = before ++ cell :: after) (refers : graph.Refers cell other) :
    other ∈ before := by
  have cellMem := tidy.mem_order_of_not_onCycle refers.cell_mem offCycle
  have found := tidy.mem_order_of_not_onCycle refers.other_mem apart.offCycle
  have outside : ¬ (cell ∈ graph.between ∧ other ∈ graph.between) := fun amid =>
    apart.notBetween (tidy.mem_between.mp amid.2)
  have pair := tidy.sublist_order cellMem found refers outside
  have distinct : graph.schedule.order.Nodup :=
    (List.nodup_append.mp (tidy.perm_parts.nodup_iff.mpr tidy.distinct)).1
  rw [split] at found pair distinct
  -- Both cells have their turn, so the other one comes before or after.
  rcases List.mem_append.mp found with early | late
  · exact early
  · -- If the other cell came later, the two would stand in the order both ways.
    have later : other ∈ after := (List.mem_cons.mp late).resolve_left (Ne.symm refers.distinct)
    have swapped := ((List.singleton_sublist.mpr later).cons_cons cell).trans
      (List.sublist_append_right before _)
    exact absurd swapped (not_sublist_pair distinct pair)

section Acyclic

variable (acyclic : ∀ cell, ¬ Relation.TransGen graph.Refers cell cell)

include acyclic

/-- Where no reference leads back all cells are apart from cycles. -/
theorem apart_of_acyclic (cell : Address) : graph.Apart cell := by
  have offCycle : ∀ cell, ¬ graph.OnCycle cell := fun cell onCycle =>
    acyclic cell (onCycle_iff.mp onCycle)
  refine ⟨offCycle cell, fun between => ?_⟩
  obtain ⟨source, onCycle, _⟩ := between.reached
  exact offCycle source onCycle

/-- Where no reference leads back no cell is on a cycle. -/
theorem Tidy.cyclic_eq_nil (tidy : Tidy graph) : graph.schedule.cyclic = [] := by
  rw [List.eq_nil_iff_forall_not_mem]
  intro cell member
  have circles := tidy.mem_circling.mp (mem_inRowOrder.mp member)
  exact acyclic cell (onCycle_iff.mp circles)

end Acyclic

/-- A cell takes its turn before another one that refers to it, with one exception: where both are
between cycles the one entered first comes first, though it may be the one that refers. -/
theorem schedule_order_iff (edits : List Edit) {cell other : Address}
    (cellMem : cell ∈ (ofEdits edits).schedule.order)
    (otherMem : other ∈ (ofEdits edits).schedule.order) (distinct : cell ≠ other)
    (refers : other ∈ (ofEdits edits).precedents cell) :
    [other, cell].Sublist (ofEdits edits).schedule.order ↔
      ¬ ((ofEdits edits).BetweenCycles cell ∧ (ofEdits edits).BetweenCycles other ∧
        [cell, other].Sublist (ofEdits edits).nodes) := by
  -- Beside the cells between cycles every part is in order, and so are the parts.
  have tidy : Tidy (ofEdits edits) := ofEdits_tidy edits
  generalize ofEdits edits = graph at *
  have orderNodup : graph.schedule.order.Nodup :=
    (List.nodup_append.mp (tidy.perm_parts.nodup_iff.mpr tidy.distinct)).1
  have scheduled : ∀ cell ∈ graph.schedule.order, cell ∈ graph.nodes := fun cell member =>
    tidy.perm_parts.mem_iff.mp (List.mem_append_left _ member)
  have edge : graph.Refers cell other :=
    ⟨scheduled cell cellMem, scheduled other otherMem, distinct, refers⟩
  simp only [← tidy.mem_between]
  by_cases both : cell ∈ graph.between ∧ other ∈ graph.between
  · -- Within the cells between cycles the turns and the entries agree.
    have middle : graph.between.Sublist graph.schedule.order :=
      (List.sublist_append_right _ _).trans (List.sublist_append_left _ _)
    rcases sublist_pair_or both.1 both.2 distinct with forward | backward
    · have turns := not_sublist_pair orderNodup (forward.trans middle)
      have entries := forward.trans between_sublist_nodes
      exact iff_of_false turns fun exempt => exempt ⟨both.1, both.2, entries⟩
    · have entries := not_sublist_pair tidy.distinct (backward.trans between_sublist_nodes)
      exact iff_of_true (backward.trans middle) fun exempt => entries exempt.2.2
  · exact iff_of_true (tidy.sublist_order cellMem otherMem edge both)
      fun exempt => both ⟨exempt.1, exempt.2.1⟩

/-- Two cycles, `A1` with `B1` and `D1` with `E1`, and a way from one to the other that goes
through `C1` and `C2`, of which `C1` is entered first. -/
def twoCycles : List Edit :=
  [.insert ⟨1, 1⟩ [⟨1, 2⟩], .insert ⟨1, 2⟩ [⟨1, 1⟩, ⟨1, 3⟩], .insert ⟨1, 3⟩ [⟨2, 3⟩],
    .insert ⟨2, 3⟩ [⟨1, 4⟩], .insert ⟨1, 4⟩ [⟨1, 5⟩], .insert ⟨1, 5⟩ [⟨1, 4⟩]]

/-- Between two cycles a cell can take its turn before the one it refers to. -/
theorem schedule_order_twoCycles :
    (⟨1, 3⟩ : Address) ∈ (ofEdits twoCycles).schedule.order ∧
      (⟨2, 3⟩ : Address) ∈ (ofEdits twoCycles).schedule.order ∧
      (⟨1, 3⟩ : Address) ≠ ⟨2, 3⟩ ∧
      (⟨2, 3⟩ : Address) ∈ (ofEdits twoCycles).precedents ⟨1, 3⟩ ∧
      ¬ [(⟨2, 3⟩ : Address), ⟨1, 3⟩].Sublist (ofEdits twoCycles).schedule.order := by
  have tidy : Tidy (ofEdits twoCycles) := ofEdits_tidy twoCycles
  refine ⟨by decide, by decide, by decide, by decide, fun turns => ?_⟩
  refine (schedule_order_iff twoCycles (by decide) (by decide) (by decide) (by decide)).mp turns ?_
  exact ⟨tidy.mem_between.mp (by decide), tidy.mem_between.mp (by decide), by decide⟩

end Spreadsheet.Graph
