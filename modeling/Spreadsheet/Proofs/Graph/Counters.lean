import Mathlib.Data.Set.Card
import Spreadsheet.Proofs.Graph.Parts

/-! The counters of a schedule's drains: each tells how many of those that a node waits for are
still to be taken, so that none is ever counted below nought and no node comes free twice. -/

namespace Spreadsheet.Graph

namespace Drain

variable {nodes : List Address} {next : Address → List Address}

/-- The nodes that have come free so far, in the order they did. -/
def queued (drain : Drain) : List Address :=
  drain.taken.reverse ++ drain.free

/-- A drain within a step: a node has been taken, and some of its targets have been told. -/
def midway (drain : Drain) (node : Address) (rest told : List Address) : Drain :=
  told.foldl release { drain with free := rest, taken := node :: drain.taken }

/-- Telling a node adds it behind those that have come free, or nothing. -/
theorem queued_prefix_release (drain : Drain) (target : Address) :
    drain.queued <+: (drain.release target).queued := by
  unfold release
  split
  · exact List.prefix_refl _
  · dsimp only
    split
    · exact ⟨[target], List.append_assoc ..⟩
    · exact List.prefix_refl _

/-- Telling some nodes adds some of them behind those that have come free. -/
theorem queued_prefix_releases (told : List Address) (drain : Drain) :
    drain.queued <+: (told.foldl release drain).queued := by
  induction told generalizing drain with
  | nil => exact List.prefix_refl _
  | cons target rest ih => exact (queued_prefix_release drain target).trans (ih _)

/-- A step takes the first node that is free and tells all of its targets. -/
theorem step_of_free {drain : Drain} {node : Address} {rest : List Address}
    (free : drain.free = node :: rest) :
    drain.step next = drain.midway node rest (next node) := by
  unfold step
  rw [free]
  rfl

/-- A step only adds nodes behind those that have come free. -/
theorem queued_prefix_step (drain : Drain) : drain.queued <+: (drain.step next).queued := by
  cases free : drain.free with
  | nil =>
    have same : drain.step next = drain := steps_of_free_eq_nil 1 free
    rw [same]
  | cons node rest =>
    -- Taking a node does not change which ones have come free.
    have same : drain.queued =
        queued { drain with free := rest, taken := node :: drain.taken } := by
      simp [queued, free]
    rw [step_of_free free, same]
    exact queued_prefix_releases _ _

/-- The steps of a drain may be made in two parts. -/
theorem steps_add (first second : Nat) (drain : Drain) :
    drain.steps next (first + second) = (drain.steps next first).steps next second := by
  induction first generalizing drain with
  | zero => rw [Nat.zero_add]; rfl
  | succ first ih =>
    rw [Nat.add_right_comm]
    exact ih (drain.step next)

/-- One more step comes after those before it. -/
theorem steps_succ (count : Nat) (drain : Drain) :
    drain.steps next (count + 1) = (drain.steps next count).step next :=
  steps_add count 1 drain

/-- How many nodes lead to a target and have not been taken. -/
theorem untaken_eq_ncard (distinct : nodes.Nodup) (taken : List Address) (target : Address) :
    untaken nodes next taken target =
      {node | node ∈ nodes ∧ target ∈ next node ∧ node ∉ taken}.ncard := by
  have counted : {node | node ∈ nodes ∧ target ∈ next node ∧ node ∉ taken} =
      (nodes.filter fun node => !taken.contains node && (next node).contains target).toFinset := by
    ext node
    simp [and_comm]
  rw [counted, Set.ncard_coe_finset, List.toFinset_card_of_nodup (distinct.filter _), untaken,
    List.countP_eq_length_filter]

/-- A drain that counts right at all times, where a node has to wait for `awaited` ones. -/
structure Counts (nodes : List Address) (next : Address → List Address)
    (awaited : Address → Set Address) : Prop where
  /-- At every iteration a counter tells how many awaited nodes have not been taken. -/
  counter : ∀ count, ∀ node ∈ nodes,
    ((start nodes next).steps next count).waiting[node]? =
      some {other ∈ awaited node | other ∉ ((start nodes next).steps next count).taken}.ncard
  /-- Wherever a counter is lowered within an iteration, it is at least one. -/
  positive : ∀ count node rest, ((start nodes next).steps next count).free = node :: rest →
    ∀ told target untold, next node = told ++ target :: untold →
      ∃ value, (((start nodes next).steps next count).midway node rest told).waiting[target]? =
        some value ∧ 1 ≤ value
  /-- No node comes free twice, as those that have come free stay and are all different. -/
  once : ∀ count, ((start nodes next).steps next count).queued.Nodup ∧
    ((start nodes next).steps next count).queued <+:
      ((start nodes next).steps next (count + 1)).queued
  /-- The loop ends, after as many iterations as nodes are taken. -/
  ends : ∃ count ≤ nodes.length, ((start nodes next).steps next count).free = [] ∧
    (∀ earlier < count, ((start nodes next).steps next earlier).free ≠ []) ∧
    ((start nodes next).steps next count).taken.reverse = drain nodes next

/-- A drain counts right if every node waits for those that lead to it. -/
theorem counts_of_leads {awaited : Address → Set Address} (leads : Leads nodes next)
    (awaits : ∀ node ∈ nodes, awaited node = {other | other ∈ nodes ∧ node ∈ next other}) :
    Counts nodes next awaited := by
  have inv := fun count => (invariant_start leads).steps leads count
  refine ⟨fun count node member => ?_, fun count node rest free told target untold split => ?_,
    fun count => ⟨?_, ?_⟩, ?_⟩
  · rw [(inv count).counts node member, List.count_nil, Nat.add_zero,
      untaken_eq_ncard leads.distinct, awaits node member]
    simp only [Set.mem_ofPred_eq, and_assoc]
  · have taken := (inv count).take leads free
    have member : node ∈ nodes := (inv count).inside node (by simp [free])
    rw [split] at taken
    have inside : ∀ other ∈ told ++ target :: untold, other ∈ nodes :=
      split ▸ leads.inside node member
    have owed := taken.releases fun other early => inside other (List.mem_append_left _ early)
    refine ⟨_, owed.counts target (inside target (by simp)), ?_⟩
    rw [List.count_cons_self]
    omega
  · have perm : ((start nodes next).steps next count).queued.Perm
        (((start nodes next).steps next count).free ++
          ((start nodes next).steps next count).taken) :=
      ((List.reverse_perm _).append_right _).trans List.perm_append_comm
    exact perm.nodup_iff.mpr (inv count).distinct
  · rw [steps_succ]
    exact queued_prefix_step _
  · have ended : ∃ count, ((start nodes next).steps next count).free = [] :=
      ⟨nodes.length, free_steps_length leads⟩
    have early : Nat.find ended ≤ nodes.length := Nat.find_min' ended (free_steps_length leads)
    refine ⟨Nat.find ended, early, Nat.find_spec ended, fun _ => Nat.find_min ended, ?_⟩
    -- Nothing is taken in the steps that are left.
    obtain ⟨left, all⟩ := Nat.exists_eq_add_of_le early
    rw [Graph.drain, all, steps_add, steps_of_free_eq_nil left (Nat.find_spec ended)]

end Drain

/-- Both loops that schedule a graph count right at all times: the first one, for each formula cell,
the formula cells that refer to it and have not been drained, and the second one, for each cell left
by the first, the cells left that it refers to and that have not been peeled. No counter is lowered
below nought, no cell comes free twice in a loop, and both loops end. -/
theorem schedule_counters (edits : List Edit) :
    let graph := ofEdits edits
    let targets := graph.targetTable
    let referrers := referrerTable graph.pending (targets.getD · [])
    Drain.Counts graph.nodes (targets.getD · []) (fun cell => {other | graph.Refers other cell}) ∧
      Drain.Counts graph.pending (referrers.getD · [])
        (fun cell => {other | other ∈ graph.pending ∧ graph.Refers cell other}) ∧
      -- What the loops take makes up the schedule.
      graph.schedule.order = drain graph.pending (referrers.getD · []) ++ graph.between ++
        (drain graph.nodes (targets.getD · [])).reverse := by
  intro graph targets referrers
  have tidy : Tidy graph := ofEdits_tidy edits
  -- What leads to a cell in a loop are the cells that the counters are said to count.
  refine ⟨Drain.counts_of_leads tidy.leads_targets fun cell _ => ?_,
    Drain.counts_of_leads tidy.leads_referrers fun cell member => ?_, rfl⟩
  · ext other
    simp only [Set.mem_ofPred_eq, targets, getD_targetTable, mem_targets]
    exact ⟨fun refers => ⟨refers.cell_mem, refers⟩, fun refers => refers.2⟩
  · ext other
    simp only [Set.mem_ofPred_eq, referrers, targets, mem_referrers]
    exact ⟨fun refers => ⟨refers.1, refers.1, member, refers.2⟩,
      fun refers => ⟨refers.1, refers.2.2.2⟩⟩

end Spreadsheet.Graph
