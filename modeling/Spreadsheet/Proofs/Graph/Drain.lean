import Mathlib.Data.List.Nodup
import Mathlib.Data.List.Perm.Subperm
import Spreadsheet.Graph.Drain

/-! What a drain takes: the nodes all of whose leading nodes it takes, each after those. -/

namespace Spreadsheet.Graph

/-- Entering values under some addresses answers for these, and leaves the table as it is else. -/
theorem getElem?_foldl_insert {β : Type} (value : Address → β) (nodes : List Address)
    (table : Std.TreeMap Address β) (node : Address) :
    (nodes.foldl (fun table node => table.insert node (value node)) table)[node]? =
      if node ∈ nodes then some (value node) else table[node]? := by
  -- An address entered twice is given the same value both times.
  induction nodes generalizing table with
  | nil => simp
  | cons first rest ih =>
    rw [List.foldl_cons, ih, Std.TreeMap.getElem?_insert]
    by_cases same : node = first
    · subst same
      simp
    · simp [same, Ne.symm same]

/-- A table of what some nodes lead to answers for these and no others. -/
theorem getD_tabulate (nodes : List Address) (next : Address → List Address) (node : Address) :
    (tabulate nodes next).getD node [] = if node ∈ nodes then next node else [] := by
  rw [Std.TreeMap.getD_eq_getD_getElem?, tabulate, getElem?_foldl_insert]
  split <;> simp

/-- What nodes lead to are nodes again, told once each. -/
structure Leads (nodes : List Address) (next : Address → List Address) : Prop where
  distinct : nodes.Nodup
  inside : ∀ node ∈ nodes, ∀ target ∈ next node, target ∈ nodes
  once : ∀ node ∈ nodes, (next node).Nodup

/-- What a drain has taken when it ends, in the order of taking. -/
structure Drained (nodes : List Address) (next : Address → List Address)
    (taken : List Address) : Prop where
  distinct : taken.Nodup
  mem_iff : ∀ node, node ∈ taken ↔
    node ∈ nodes ∧ ∀ other ∈ nodes, node ∈ next other → other ∈ taken
  ordered : taken.Pairwise fun earlier later => earlier ∉ next later

namespace Drain

/-- How many of the nodes that lead to a target have not been taken. -/
def untaken (nodes : List Address) (next : Address → List Address) (taken : List Address)
    (target : Address) : Nat :=
  nodes.countP fun node => !taken.contains node && (next node).contains target

/-- A node has no untaken leading nodes when all that lead to it have been taken. -/
theorem untaken_eq_zero_iff {nodes : List Address} {next : Address → List Address}
    {taken : List Address} {target : Address} :
    untaken nodes next taken target = 0 ↔
      ∀ node ∈ nodes, target ∈ next node → node ∈ taken := by
  simp only [untaken, List.countP_eq_zero, Bool.and_eq_true, Bool.not_eq_true', not_and,
    List.contains_iff_mem, ← Bool.not_eq_true]
  exact forall_congr' fun node => imp_congr_right fun _ =>
    ⟨fun free leads => by_contra fun missing => free missing leads,
      fun all missing leads => missing (all leads)⟩

/-- Taking a node pays every one of its targets once. -/
theorem untaken_cons {nodes : List Address} {next : Address → List Address}
    (leads : Leads nodes next) {taken : List Address} {node : Address} (member : node ∈ nodes)
    (fresh : node ∉ taken) (target : Address) :
    untaken nodes next taken target =
      untaken nodes next (node :: taken) target + (next node).count target := by
  -- Only the node itself is counted differently before and after.
  have split := List.perm_cons_erase member
  have others : ∀ other ∈ nodes.erase node, ((!taken.contains other && (next other).contains target)
      = true ↔ (!(node :: taken).contains other && (next other).contains target) = true) := by
    intro other otherMember
    have distinct : other ≠ node := (leads.distinct.mem_erase_iff.mp otherMember).1
    simp [distinct]
  have own : (next node).count target = if target ∈ next node then 1 else 0 :=
    (leads.once node member).count
  rw [untaken, untaken, split.countP_eq, split.countP_eq, List.countP_cons, List.countP_cons,
    List.countP_congr others, own]
  simp [fresh]

/-- A drain on its way: counters tell how many leading nodes are missing, and nodes come free when
none is. The targets `owed` of the node taken last have not been told of it yet. -/
structure Invariant (nodes : List Address) (next : Address → List Address) (owed : List Address)
    (drain : Drain) : Prop where
  counts : ∀ node ∈ nodes, drain.waiting[node]? =
    some (untaken nodes next drain.taken node + owed.count node)
  distinct : (drain.free ++ drain.taken).Nodup
  inside : ∀ node ∈ drain.free ++ drain.taken, node ∈ nodes
  reached_iff : ∀ node ∈ nodes, node ∈ drain.free ++ drain.taken ↔
    untaken nodes next drain.taken node + owed.count node = 0
  ordered : drain.taken.Pairwise fun later earlier => earlier ∉ next later

variable {nodes : List Address} {next : Address → List Address}

/-- The counters start with how many nodes lead to each node. -/
theorem getElem?_countLeading (leads : Leads nodes next) {node : Address} (member : node ∈ nodes) :
    (countLeading nodes next)[node]? = some (untaken nodes next [] node) := by
  have modified : ∀ (targets : List Address) (table : Std.TreeMap Address Nat),
      (targets.foldl (fun table target => table.modify target (· + 1)) table)[node]? =
        table[node]?.map (· + targets.count node) := by
    intro targets
    induction targets with
    | nil => intro table; simp
    | cons target rest ih =>
      intro table
      rw [List.foldl_cons, ih, Std.TreeMap.getElem?_modify]
      by_cases same : target = node
      · subst same
        simp only [Std.ReflOrd.compare_self, if_true, List.count_cons_self, Option.map_map]
        congr 1
        funext count
        simp only [Function.comp_apply]
        omega
      · simp [same]
  -- A node is told once by each node that leads to it.
  have told : ∀ few : List Address, (∀ other ∈ few, other ∈ nodes) →
      (few.flatMap next).count node = few.countP fun other => (next other).contains node := by
    intro few
    induction few with
    | nil => intro _; rfl
    | cons other rest ih =>
      intro known
      have own : (next other).count node = if node ∈ next other then 1 else 0 :=
        (leads.once other (known other List.mem_cons_self)).count
      rw [List.flatMap_cons, List.count_append, own, List.countP_cons,
        ih fun each tail => known each (List.mem_cons_of_mem _ tail)]
      simp only [List.contains_iff_mem]
      omega
  rw [countLeading, modified, getElem?_foldl_insert (fun _ => 0), if_pos member,
    told nodes fun _ => id]
  simp [untaken]

/-- A drain starts with nothing taken and everything told. -/
theorem invariant_start (leads : Leads nodes next) :
    Invariant nodes next [] (start nodes next) := by
  -- With nothing taken the counters are complete, and the free nodes are those at zero.
  have counts : ∀ node ∈ nodes, (countLeading nodes next)[node]? =
      some (untaken nodes next [] node) := fun node => getElem?_countLeading leads
  have waits : ∀ node ∈ nodes, (countLeading nodes next).getD node 1 =
      untaken nodes next [] node := by
    intro node member
    rw [Std.TreeMap.getD_eq_getD_getElem?, counts node member]
    rfl
  refine ⟨?_, ?_, ?_, ?_, List.Pairwise.nil⟩
  · exact counts
  · simpa [start] using leads.distinct.filter _
  · intro node member
    simp only [start, List.append_nil] at member
    exact (List.mem_filter.mp member).1
  · intro node member
    simp only [start, List.append_nil, List.mem_filter, List.count_nil, Nat.add_zero, beq_iff_eq,
      waits node member]
    exact ⟨fun free => free.2, fun zero => ⟨member, zero⟩⟩

/-- Telling a node that one of its leading nodes is taken pays what it was owed. -/
theorem Invariant.release {target : Address} {owed : List Address} {drain : Drain}
    (inv : Invariant nodes next (target :: owed) drain) (member : target ∈ nodes) :
    Invariant nodes next owed (drain.release target) := by
  obtain ⟨counts, distinct, inside, reached_iff, ordered⟩ := inv
  have count : drain.waiting[target]? =
      some (untaken nodes next drain.taken target + owed.count target + 1) := by
    rw [counts target member, List.count_cons_self, Nat.add_assoc]
  -- The counter is at least one, so the target has not come free before.
  have unreached : target ∉ drain.free ++ drain.taken := by
    rw [reached_iff target member, List.count_cons_self]
    omega
  have kept : ∀ node ∈ nodes, node ≠ target →
      (target :: owed).count node = owed.count node := by
    intro node _ other
    exact List.count_cons_of_ne (Ne.symm other)
  have paid : ∀ node ∈ nodes,
      (drain.waiting.insert target
        (untaken nodes next drain.taken target + owed.count target))[node]? =
          some (untaken nodes next drain.taken node + owed.count node) := by
    intro node nodeMember
    rw [Std.TreeMap.getElem?_insert]
    by_cases same : node = target
    · subst same
      simp
    · rw [if_neg (by simpa using Ne.symm same), counts node nodeMember, kept node nodeMember same]
  simp only [Drain.release, count, Nat.add_sub_cancel]
  split
  · rename_i zero
    -- It was the last one missing, so the target joins the free nodes.
    refine ⟨paid, ?_, ?_, ?_, ordered⟩
    · have rotated : (drain.free ++ [target] ++ drain.taken).Perm
          (target :: (drain.free ++ drain.taken)) := by
        rw [List.append_assoc]
        exact List.perm_middle
      exact rotated.nodup_iff.mpr (List.nodup_cons.mpr ⟨unreached, distinct⟩)
    · intro node reached
      simp only [List.append_assoc, List.mem_append, List.mem_singleton] at reached
      rcases reached with free | same | taken
      · exact inside node (List.mem_append_left _ free)
      · exact same ▸ member
      · exact inside node (List.mem_append_right _ taken)
    · intro node nodeMember
      by_cases same : node = target
      · subst same
        simp [zero]
      · have old := reached_iff node nodeMember
        rw [kept node nodeMember same] at old
        simpa [same] using old
  · rename_i positive
    refine ⟨paid, distinct, inside, ?_, ordered⟩
    intro node nodeMember
    by_cases same : node = target
    · subst same
      exact iff_of_false unreached positive
    · rw [← kept node nodeMember same]
      exact reached_iff node nodeMember

/-- Telling some of those that are owed leaves the others owed. -/
theorem Invariant.releases {told owed : List Address} {drain : Drain}
    (inv : Invariant nodes next (told ++ owed) drain) (members : ∀ target ∈ told, target ∈ nodes) :
    Invariant nodes next owed (told.foldl Drain.release drain) := by
  induction told generalizing drain with
  | nil => exact inv
  | cons target rest ih =>
    exact ih (inv.release (members target List.mem_cons_self))
      fun other tail => members other (List.mem_cons_of_mem _ tail)

/-- Taking a free node owes its targets the news. -/
theorem Invariant.take (leads : Leads nodes next) {node : Address} {rest : List Address}
    {drain : Drain} (inv : Invariant nodes next [] drain) (free : drain.free = node :: rest) :
    Invariant nodes next (next node)
      { drain with free := rest, taken := node :: drain.taken } := by
  -- Only the targets of the node count one less now, and these are the ones that are owed.
  obtain ⟨counts, distinct, inside, reached_iff, ordered⟩ := inv
  have member : node ∈ nodes := inside node (by simp [free])
  have rotated : (drain.free ++ drain.taken).Perm (rest ++ node :: drain.taken) := by
    rw [free]
    exact List.perm_middle.symm
  have fresh : node ∉ drain.taken := by
    rw [free, List.cons_append, List.nodup_cons] at distinct
    exact fun taken => distinct.1 (List.mem_append_right _ taken)
  have paid := untaken_cons leads member fresh
  refine ⟨?_, rotated.nodup_iff.mp distinct, ?_, ?_, ?_⟩
  · intro other otherMember
    simpa only [paid, List.count_nil, Nat.add_zero] using counts other otherMember
  · exact fun other reached => inside other (rotated.mem_iff.mpr reached)
  · intro other otherMember
    rw [← rotated.mem_iff, ← paid other]
    simpa only [List.count_nil, Nat.add_zero] using reached_iff other otherMember
  · -- A target taken before this node would have had to wait for it.
    refine List.pairwise_cons.mpr ⟨?_, ordered⟩
    intro earlier taken leadsBack
    have reached : earlier ∈ drain.free ++ drain.taken := List.mem_append_right _ taken
    have zero := (reached_iff earlier (inside earlier reached)).mp reached
    simp only [List.count_nil, Nat.add_zero] at zero
    exact fresh (untaken_eq_zero_iff.mp zero node member leadsBack)

/-- One step of a drain keeps its counters and its free nodes right. -/
theorem Invariant.step (leads : Leads nodes next) {drain : Drain}
    (inv : Invariant nodes next [] drain) : Invariant nodes next [] (drain.step next) := by
  -- A step is a node taken and its targets told.
  unfold Drain.step
  split
  · exact inv
  · rename_i node rest free
    have member : node ∈ nodes := inv.inside node (by simp [free])
    have taken := inv.take leads free
    rw [← List.append_nil (next node)] at taken
    exact taken.releases (leads.inside node member)

/-- Any number of steps of a drain keep its counters and its free nodes right. -/
theorem Invariant.steps (leads : Leads nodes next) (count : Nat) {drain : Drain}
    (inv : Invariant nodes next [] drain) :
    Invariant nodes next [] (drain.steps next count) := by
  induction count generalizing drain with
  | zero => exact inv
  | succ count ih => exact ih (inv.step leads)

/-- Telling a node does not take any. -/
theorem taken_release (drain : Drain) (target : Address) :
    (drain.release target).taken = drain.taken := by
  unfold Drain.release
  split
  · rfl
  · dsimp only
    split <;> rfl

/-- A step takes the first free node. -/
theorem taken_step {node : Address} {rest : List Address} {drain : Drain}
    (free : drain.free = node :: rest) : (drain.step next).taken = node :: drain.taken := by
  -- Taking happens once at the start of the step, and what follows only tells.
  have told : ∀ (targets : List Address) (drain : Drain),
      (targets.foldl Drain.release drain).taken = drain.taken := by
    intro targets
    induction targets with
    | nil => exact fun _ => rfl
    | cons target rest ih => exact fun drain => (ih _).trans (taken_release drain target)
  simp only [Drain.step, free]
  exact told _ _

/-- A drain with no free node stays as it is. -/
theorem steps_of_free_eq_nil (count : Nat) {drain : Drain} (ended : drain.free = []) :
    drain.steps next count = drain := by
  -- A step does nothing without a free node, and so do all the steps after it.
  induction count with
  | zero => rfl
  | succ count ih =>
    have same : drain.step next = drain := by simp [Drain.step, ended]
    rw [Drain.steps, same, ih]

/-- Each step takes a node as long as there is a free one. -/
theorem length_taken_steps (count : Nat) (drain : Drain) :
    (drain.steps next count).free = [] ∨
      (drain.steps next count).taken.length = drain.taken.length + count := by
  -- Each step either finds no free node, or takes one and leaves one step less.
  induction count generalizing drain with
  | zero => exact Or.inr rfl
  | succ count ih =>
    cases free : drain.free with
    | nil => exact Or.inl ((steps_of_free_eq_nil _ free).symm ▸ free)
    | cons node rest =>
      refine (ih (drain.step next)).imp_right fun length => ?_
      rw [Drain.steps, length, taken_step free, List.length_cons]
      omega

/-- As many steps as there are nodes leave no free node. -/
theorem free_steps_length (leads : Leads nodes next) :
    ((start nodes next).steps next nodes.length).free = [] := by
  have inv := (invariant_start leads).steps leads nodes.length
  refine (length_taken_steps _ _).elim id fun length => ?_
  -- As many nodes are taken as there are, so none can be free beside them.
  have bound := (inv.distinct.subperm inv.inside).length_le
  rw [List.length_append, length] at bound
  exact List.eq_nil_of_length_eq_zero (by omega)

end Drain

/-- A drain takes exactly the nodes it can take, each after all that lead to it. -/
theorem drain_drained {nodes : List Address} {next : Address → List Address}
    (leads : Leads nodes next) : Drained nodes next (drain nodes next) := by
  have inv := (Drain.invariant_start leads).steps leads nodes.length
  have ended := Drain.free_steps_length leads
  have reached_iff := inv.reached_iff
  simp only [ended, List.nil_append, List.count_nil, Nat.add_zero, Drain.untaken_eq_zero_iff]
    at reached_iff
  -- When the loop ends no node is free, so the invariant tells which nodes have been taken.
  refine ⟨?_, ?_, ?_⟩
  · have distinct := inv.distinct
    rw [ended, List.nil_append] at distinct
    exact List.nodup_reverse.mpr distinct
  · intro node
    simp only [drain, List.mem_reverse]
    constructor
    · intro taken
      have member := inv.inside node (List.mem_append_right _ taken)
      exact ⟨member, (reached_iff node member).mp taken⟩
    · intro takes
      obtain ⟨member, all⟩ := takes
      exact (reached_iff node member).mpr all
  · exact List.pairwise_reverse.mpr inv.ordered

end Spreadsheet.Graph
