import Spreadsheet.Proofs.Graph.Cycles
import Spreadsheet.Proofs.Graph.Search

/-! The parts of a schedule, and which cells of the graph each of them holds. -/

namespace Spreadsheet.Graph

open Relation (TransGen ReflTransGen)

/-- The cells that the first drain takes. -/
def drained (graph : Graph) : List Address :=
  drain graph.nodes (graph.targetTable.getD · [])

/-- The cells left by the first drain. -/
def pending (graph : Graph) : List Address :=
  without graph.nodes graph.drained

/-- The cells that the second drain takes, which runs from the other end. -/
def peeled (graph : Graph) : List Address :=
  drain graph.pending ((referrerTable graph.pending (graph.targetTable.getD · [])).getD · [])

/-- The cells left by both drains. -/
def core (graph : Graph) : List Address :=
  without graph.pending graph.peeled

/-- The cells of the core that the search finds a way back to. -/
def circling (graph : Graph) : List Address :=
  returning graph.core ((innerTable graph.core (graph.targetTable.getD · [])).getD · [])

/-- The cells of the core that lie on no cycle. -/
def between (graph : Graph) : List Address :=
  without graph.core graph.circling

/-- A schedule is put together from its parts. -/
theorem schedule_eq (graph : Graph) : graph.schedule =
    ⟨graph.peeled ++ graph.between ++ graph.drained.reverse, inRowOrder graph.circling⟩ :=
  rfl

variable {graph : Graph}

/-- The table of targets answers for every cell. -/
theorem getD_targetTable (cell : Address) :
    graph.targetTable.getD cell [] = graph.targets cell := by
  -- The table has no entry for an address that is no formula cell, which has no targets.
  rw [targetTable, getD_tabulate]
  split
  · rfl
  · rename_i unknown
    refine (List.eq_nil_iff_forall_not_mem.mpr fun other member => ?_).symm
    exact unknown (mem_targets.mp member).cell_mem

/-- The targets of the formula cells are formula cells. -/
theorem Tidy.leads_targets (tidy : Tidy graph) :
    Leads graph.nodes (graph.targetTable.getD · []) := by
  -- Targets are formula cells by definition, and sorted without repetition.
  refine ⟨tidy.distinct, ?_, ?_⟩
  · intro cell _ other member
    rw [getD_targetTable] at member
    exact (mem_targets.mp member).other_mem
  · intro cell _
    rw [getD_targetTable]
    exact tidy.nodup_targets cell

/-- The first drain takes the cells whose referrers it takes, each after those. -/
theorem Tidy.drained_spec (tidy : Tidy graph) :
    Drained graph.nodes (graph.targetTable.getD · []) graph.drained :=
  drain_drained tidy.leads_targets

/-- A drained cell is one all of whose referrers are drained. -/
theorem Tidy.mem_drained (tidy : Tidy graph) {cell : Address} : cell ∈ graph.drained ↔
    cell ∈ graph.nodes ∧ ∀ other, graph.Refers other cell → other ∈ graph.drained := by
  -- Only formula cells refer to others, so it is enough to ask these.
  rw [tidy.drained_spec.mem_iff]
  simp only [getD_targetTable, mem_targets]
  exact and_congr_right fun _ => ⟨fun all other refers => all other refers.cell_mem refers,
    fun all other _ refers => all other refers⟩

/-- No drained cell refers to one drained earlier. -/
theorem Tidy.pairwise_drained (tidy : Tidy graph) :
    graph.drained.Pairwise fun earlier later => ¬ graph.Refers later earlier := by
  -- The drain never takes a node after one that it leads to.
  refine tidy.drained_spec.ordered.imp fun {earlier later} absent => ?_
  rwa [getD_targetTable, mem_targets] at absent

/-- The pending cells are all but the drained ones. -/
theorem mem_pending {cell : Address} :
    cell ∈ graph.pending ↔ cell ∈ graph.nodes ∧ cell ∉ graph.drained :=
  mem_without

/-- Every pending cell is there once. -/
theorem Tidy.nodup_pending (tidy : Tidy graph) : graph.pending.Nodup :=
  (without_sublist _ _).nodup tidy.distinct

/-- The table of referrers tells which pending cells refer to a pending cell. -/
theorem mem_referrers {cell other : Address} :
    other ∈ (referrerTable graph.pending (graph.targetTable.getD · [])).getD cell [] ↔
      cell ∈ graph.pending ∧ other ∈ graph.pending ∧ graph.Refers other cell := by
  -- The table has entries for pending cells only, and each of them is a filter of these.
  rw [referrerTable, getD_tabulate]
  split
  · rename_i member
    simp [member, getD_targetTable]
  · rename_i absent
    simp [absent]

/-- The referrers of pending cells among these are pending cells. -/
theorem Tidy.leads_referrers (tidy : Tidy graph) : Leads graph.pending
    ((referrerTable graph.pending (graph.targetTable.getD · [])).getD · []) := by
  refine ⟨tidy.nodup_pending, ?_, ?_⟩
  · intro cell _ other member
    exact (mem_referrers.mp member).2.1
  · intro cell member
    rw [referrerTable, getD_tabulate, if_pos member]
    exact tidy.nodup_pending.filter _

/-- The second drain takes the cells whose pending targets it takes, each after those. -/
theorem Tidy.peeled_spec (tidy : Tidy graph) : Drained graph.pending
    ((referrerTable graph.pending (graph.targetTable.getD · [])).getD · []) graph.peeled :=
  drain_drained tidy.leads_referrers

/-- A peeled cell is a pending one all of whose pending targets are peeled. -/
theorem Tidy.mem_peeled (tidy : Tidy graph) {cell : Address} : cell ∈ graph.peeled ↔
    cell ∈ graph.pending ∧
      ∀ other ∈ graph.pending, graph.Refers cell other → other ∈ graph.peeled := by
  -- In the table of referrers the cells led to are the ones that refer.
  rw [tidy.peeled_spec.mem_iff]
  simp only [mem_referrers]
  exact and_congr_right fun member => ⟨fun all other known refers => all other known
    ⟨known, member, refers⟩, fun all other known leads => all other known leads.2.2⟩

/-- No peeled cell refers to one peeled later. -/
theorem Tidy.pairwise_peeled (tidy : Tidy graph) :
    graph.peeled.Pairwise fun earlier later => ¬ graph.Refers earlier later := by
  -- Both cells are pending, so a reference between them would be in the table.
  refine tidy.peeled_spec.ordered.imp_of_mem fun {earlier later} first second absent refers => ?_
  have earlierMem := (tidy.mem_peeled.mp first).1
  have laterMem := (tidy.mem_peeled.mp second).1
  exact absent (mem_referrers.mpr ⟨laterMem, earlierMem, refers⟩)

/-- The core is what is neither drained nor peeled. -/
theorem mem_core {cell : Address} :
    cell ∈ graph.core ↔ cell ∈ graph.pending ∧ cell ∉ graph.peeled :=
  mem_without

/-- Every cell of the core is there once. -/
theorem Tidy.nodup_core (tidy : Tidy graph) : graph.core.Nodup :=
  (without_sublist _ _).nodup tidy.nodup_pending

/-- A drained cell lies on no cycle. -/
theorem Tidy.not_cycle_of_drained (tidy : Tidy graph) {cell : Address}
    (member : cell ∈ graph.drained) : ¬ TransGen graph.Refers cell cell := by
  -- Against the direction of reference all cells are drained, at earlier and earlier places.
  have back : ∀ other, TransGen graph.Refers other cell →
      other ∈ graph.drained ∧ graph.drained.idxOf other < graph.drained.idxOf cell := by
    intro other path
    induction path using TransGen.head_induction_on with
    | single edge =>
      have known := (tidy.mem_drained.mp member).2 _ edge
      exact ⟨known, idxOf_lt_of_pairwise graph.Refers tidy.pairwise_drained known member
        edge.distinct edge⟩
    | head edge _ ih =>
      have known := (tidy.mem_drained.mp ih.1).2 _ edge
      exact ⟨known, (idxOf_lt_of_pairwise graph.Refers tidy.pairwise_drained known ih.1
        edge.distinct edge).trans ih.2⟩
  exact fun path => Nat.lt_irrefl _ (back cell path).2

/-- A cell on a cycle is pending. -/
theorem Tidy.pending_of_cycle (tidy : Tidy graph) {cell : Address}
    (path : TransGen graph.Refers cell cell) : cell ∈ graph.pending := by
  obtain ⟨_, edge, _⟩ := TransGen.head'_iff.mp path
  exact mem_pending.mpr ⟨edge.cell_mem, fun taken => tidy.not_cycle_of_drained taken path⟩

/-- A peeled cell lies on no cycle. -/
theorem Tidy.not_cycle_of_peeled (tidy : Tidy graph) {cell : Address}
    (member : cell ∈ graph.peeled) : ¬ TransGen graph.Refers cell cell := by
  -- Along a cycle all cells are pending, so they are peeled, at earlier and earlier places.
  have along : ∀ other, TransGen graph.Refers cell other → TransGen graph.Refers other cell →
      other ∈ graph.peeled ∧ graph.peeled.idxOf other < graph.peeled.idxOf cell := by
    intro other path
    induction path with
    | single edge =>
      intro back
      have known := (tidy.mem_peeled.mp member).2 _ (tidy.pending_of_cycle (back.tail edge)) edge
      exact ⟨known, idxOf_lt_of_pairwise (fun later earlier => graph.Refers earlier later)
        tidy.pairwise_peeled known member edge.distinct.symm edge⟩
    | tail path edge ih =>
      intro back
      have earlier := ih (back.head edge)
      have known := (tidy.mem_peeled.mp earlier.1).2 _
        (tidy.pending_of_cycle ((back.trans path).tail edge)) edge
      exact ⟨known, (idxOf_lt_of_pairwise (fun later earlier => graph.Refers earlier later)
        tidy.pairwise_peeled known earlier.1
        edge.distinct.symm edge).trans earlier.2⟩
  exact fun path => Nat.lt_irrefl _ (along cell path path).2

/-- A cell on a cycle is in the core. -/
theorem Tidy.core_of_cycle (tidy : Tidy graph) {cell : Address}
    (path : TransGen graph.Refers cell cell) : cell ∈ graph.core :=
  mem_core.mpr ⟨tidy.pending_of_cycle path, fun taken => tidy.not_cycle_of_peeled taken path⟩

/-- The inner table tells which cells of the core a cell of the core refers to. -/
theorem mem_inner {cell other : Address} :
    other ∈ (innerTable graph.core (graph.targetTable.getD · [])).getD cell [] ↔
      cell ∈ graph.core ∧ other ∈ graph.core ∧ graph.Refers cell other := by
  -- The table has entries for cells of the core only, and each of them is a filter.
  rw [innerTable, getD_tabulate]
  split
  · rename_i member
    simp [member, getD_targetTable, Std.TreeSet.contains_ofList, and_comm]
  · rename_i absent
    simp [absent]

/-- What cells of the core refer to among these are cells of the core. -/
theorem Tidy.leads_inner (tidy : Tidy graph) : Leads graph.core
    ((innerTable graph.core (graph.targetTable.getD · [])).getD · []) := by
  -- The inner targets are some of the targets, which are sorted without repetition.
  refine ⟨tidy.nodup_core, ?_, ?_⟩
  · intro cell _ other member
    exact (mem_inner.mp member).2.1
  · intro cell member
    rw [innerTable, getD_tabulate, if_pos member, getD_targetTable]
    exact (tidy.nodup_targets cell).filter _

/-- The search in the core finds exactly the cells on cycles. -/
theorem Tidy.mem_circling (tidy : Tidy graph) {cell : Address} :
    cell ∈ graph.circling ↔ graph.OnCycle cell := by
  rw [circling, mem_returning tidy.leads_inner, onCycle_iff]
  constructor
  · intro found
    obtain ⟨_, path⟩ := found
    -- The inner references are references.
    exact TransGen.mono (fun _ _ member => (mem_inner.mp member).2.2) _ _ path
  · intro path
    -- Both ends of every reference along a cycle lie on it, so none of them is lost.
    have along : ∀ other, TransGen graph.Refers cell other → TransGen graph.Refers other cell →
        TransGen (fun node target => target ∈
          (innerTable graph.core (graph.targetTable.getD · [])).getD node []) cell other := by
      intro other away
      induction away with
      | single edge =>
        intro back
        exact .single (mem_inner.mpr
          ⟨tidy.core_of_cycle path, tidy.core_of_cycle (back.tail edge), edge⟩)
      | tail away edge ih =>
        intro back
        have before := back.head edge
        exact (ih before).tail (mem_inner.mpr ⟨tidy.core_of_cycle (before.trans away),
          tidy.core_of_cycle ((back.trans away).tail edge), edge⟩)
    exact ⟨tidy.core_of_cycle path, along cell path path⟩

/-- What leads to a cell that is not drained is not drained. -/
theorem Tidy.not_drained_of_path (tidy : Tidy graph) {cell other : Address}
    (path : TransGen graph.Refers cell other) (left : cell ∉ graph.drained) :
    other ∉ graph.drained := by
  -- A drained cell has only drained ones behind it, all the way back.
  induction path with
  | single edge => exact fun taken => left ((tidy.mem_drained.mp taken).2 _ edge)
  | tail _ edge ih => exact fun taken => ih ((tidy.mem_drained.mp taken).2 _ edge)

/-- A cell of the core has a referrer in the core and refers to a cell in the core. -/
theorem Tidy.core_step (tidy : Tidy graph) {cell : Address} (member : cell ∈ graph.core) :
    (∃ other ∈ graph.core, graph.Refers other cell) ∧
      ∃ other ∈ graph.core, graph.Refers cell other := by
  -- Otherwise a drain would have taken the cell, the first one for lack of a referrer and the
  -- second one for lack of a target.
  obtain ⟨isPending, left⟩ := mem_core.mp member
  obtain ⟨known, undrained⟩ := mem_pending.mp isPending
  refine ⟨?_, ?_⟩
  · have stuck : ∃ other, graph.Refers other cell ∧ other ∉ graph.drained := by
      by_contra all
      push Not at all
      exact undrained (tidy.mem_drained.mpr ⟨known, all⟩)
    obtain ⟨other, refers, otherUndrained⟩ := stuck
    have otherPending := mem_pending.mpr ⟨refers.cell_mem, otherUndrained⟩
    -- A peeled referrer would have had to wait for the cell.
    refine ⟨other, mem_core.mpr ⟨otherPending, fun taken => ?_⟩, refers⟩
    exact left ((tidy.mem_peeled.mp taken).2 cell isPending refers)
  · have stuck : ∃ other ∈ graph.pending, graph.Refers cell other ∧ other ∉ graph.peeled := by
      by_contra all
      push Not at all
      exact left (tidy.mem_peeled.mpr ⟨isPending, all⟩)
    obtain ⟨other, otherPending, refers, otherLeft⟩ := stuck
    exact ⟨other, mem_core.mpr ⟨otherPending, otherLeft⟩, refers⟩

/-- A cell of the core that is on no cycle is between cycles. -/
theorem Tidy.betweenCycles_of_core (tidy : Tidy graph) {cell : Address}
    (member : cell ∈ graph.core) (offCycle : ¬ graph.OnCycle cell) :
    graph.BetweenCycles cell := by
  -- Followed either way, references within the core never end, so they come to a cycle.
  obtain ⟨source, _, behind, sourceCycle⟩ := exists_cycle_of_forall_exists
    (fun cell other => graph.Refers other cell)
    (fun _ inside => (tidy.core_step inside).1) member
  obtain ⟨goal, _, ahead, goalCycle⟩ := exists_cycle_of_forall_exists graph.Refers
    (fun _ inside => (tidy.core_step inside).2) member
  have sourceOn : graph.OnCycle source := onCycle_iff.mpr (Relation.transGen_swap.mp sourceCycle)
  have goalOn : graph.OnCycle goal := onCycle_iff.mpr goalCycle
  refine ⟨offCycle, ⟨source, sourceOn, ?_⟩, ⟨goal, goalOn, ?_⟩⟩
  · rcases Relation.reflTransGen_iff_eq_or_transGen.mp behind with same | path
    · exact absurd (same ▸ sourceOn) offCycle
    · exact Relation.transGen_swap.mp path
  · rcases Relation.reflTransGen_iff_eq_or_transGen.mp ahead with same | path
    · exact absurd (same ▸ goalOn) offCycle
    · exact path

/-- What is left of the core without the cells on cycles are the cells between cycles. -/
theorem Tidy.mem_between (tidy : Tidy graph) {cell : Address} :
    cell ∈ graph.between ↔ graph.BetweenCycles cell := by
  rw [between, mem_without, tidy.mem_circling]
  constructor
  · intro left
    obtain ⟨member, offCycle⟩ := left
    exact tidy.betweenCycles_of_core member offCycle
  · intro amid
    obtain ⟨offCycle, ⟨source, sourceOn, behind⟩, ⟨goal, goalOn, ahead⟩⟩ := amid
    -- The cell is not drained because of the cycle behind it.
    have sourceCore := tidy.core_of_cycle (onCycle_iff.mp sourceOn)
    have goalCore := tidy.core_of_cycle (onCycle_iff.mp goalOn)
    have undrained := tidy.not_drained_of_path behind
      (mem_pending.mp (mem_core.mp sourceCore).1).2
    -- Everything on the way to the cycle is pending, and none of it can be peeled.
    have unpeeled : cell ∉ graph.peeled := by
      intro taken
      have along : ∀ other, TransGen graph.Refers cell other → other ∈ graph.peeled := by
        intro other path
        induction path with
        | single edge => exact (tidy.mem_peeled.mp taken).2 _ (mem_pending.mpr
            ⟨edge.other_mem, tidy.not_drained_of_path (.single edge) undrained⟩) edge
        | tail path edge ih => exact (tidy.mem_peeled.mp ih).2 _ (mem_pending.mpr
            ⟨edge.other_mem, tidy.not_drained_of_path (path.tail edge) undrained⟩) edge
      exact (mem_core.mp goalCore).2 (along goal ahead)
    obtain ⟨_, edge, _⟩ := TransGen.head'_iff.mp ahead
    exact ⟨mem_core.mpr ⟨mem_pending.mpr ⟨edge.cell_mem, undrained⟩, unpeeled⟩, offCycle⟩

end Spreadsheet.Graph
