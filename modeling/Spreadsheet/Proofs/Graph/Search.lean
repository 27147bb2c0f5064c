import Mathlib.Logic.Relation
import Spreadsheet.Graph.Schedule
import Spreadsheet.Proofs.Graph.Drain

/-! The search for a way back finds one exactly from the nodes that a path returns to. -/

namespace Spreadsheet.Graph

open Relation (TransGen)

/-- Marking some nodes as seen marks these and no others. -/
theorem mem_foldl_insert (nodes : List Address) (seen : Std.TreeSet Address) (node : Address) :
    node ∈ nodes.foldl (fun seen node => seen.insert node) seen ↔
      node ∈ nodes ∨ node ∈ seen := by
  -- The nodes are marked one by one, each of them joining those marked before.
  induction nodes generalizing seen with
  | nil => simp
  | cons first rest ih =>
    rw [List.foldl_cons, ih, Std.TreeSet.mem_insert, List.mem_cons,
      Std.LawfulEqOrd.compare_eq_iff_eq]
    constructor
    · intro either
      rcases either with tail | same | old
      · exact Or.inl (Or.inr tail)
      · exact Or.inl (Or.inl same.symm)
      · exact Or.inr old
    · intro either
      rcases either with (same | tail) | old
      · exact Or.inr (Or.inl same.symm)
      · exact Or.inl tail
      · exact Or.inr (Or.inr old)

/-- The nodes not marked as seen are those outside the set. -/
theorem mem_filter_not_contains {nodes : List Address} {seen : Std.TreeSet Address}
    {node : Address} :
    node ∈ nodes.filter (fun node => !seen.contains node) ↔ node ∈ nodes ∧ node ∉ seen := by
  rw [List.mem_filter, Bool.not_eq_true', ← Bool.not_eq_true, Std.TreeSet.contains_iff_mem]

/-- Leaving out some nodes keeps the others. -/
@[simp] theorem mem_without {nodes taken : List Address} {node : Address} :
    node ∈ without nodes taken ↔ node ∈ nodes ∧ node ∉ taken := by
  simp [without, Std.TreeSet.contains_ofList]

/-- Leaving out nodes keeps the order of the others. -/
theorem without_sublist (nodes taken : List Address) : (without nodes taken).Sublist nodes :=
  List.filter_sublist

/-- The nodes left out and those that are kept make up all of them. -/
theorem perm_append_without {nodes taken : List Address} (distinct : nodes.Nodup)
    (takenDistinct : taken.Nodup) (inside : ∀ node ∈ taken, node ∈ nodes) :
    (taken ++ without nodes taken).Perm nodes := by
  -- Neither side has a repetition, so it is enough that they have the same members.
  refine (List.perm_ext_iff_of_nodup ?_ distinct).mpr ?_
  · refine List.nodup_append.mpr ⟨takenDistinct, (without_sublist _ _).nodup distinct, ?_⟩
    intro node member other kept same
    exact (mem_without.mp kept).2 (same ▸ member)
  · intro node
    rw [List.mem_append, mem_without]
    constructor
    · intro either
      rcases either with member | kept
      · exact inside node member
      · exact kept.1
    · intro member
      by_cases known : node ∈ taken
      · exact Or.inl known
      · exact Or.inr ⟨member, known⟩

variable {nodes : List Address} {next : Address → List Address} {goal : Address}

/-- A search that succeeds has a path to the goal from a node of its stack. -/
theorem exists_path_of_leadsTo {count : Nat} {stack : List Address} {seen : Std.TreeSet Address}
    (found : leadsTo next goal count stack seen = true) :
    ∃ node ∈ stack, TransGen (fun node target => target ∈ next node) node goal := by
  -- A path from a target of the top of the stack is one step longer from the top itself.
  induction count generalizing stack seen with
  | zero => simp [leadsTo] at found
  | succ count ih =>
    cases stack with
    | nil => simp [leadsTo] at found
    | cons node stack =>
      simp only [leadsTo] at found
      split at found
      · rename_i direct
        exact ⟨node, List.mem_cons_self, .single (List.contains_iff_mem.mp direct)⟩
      · obtain ⟨later, member, path⟩ := ih found
        rcases List.mem_append.mp member with fresh | old
        · -- The later node was put on the stack for this one.
          exact ⟨node, List.mem_cons_self, path.head (List.mem_filter.mp fresh).1⟩
        · exact ⟨later, List.mem_cons_of_mem _ old, path⟩

/-- A search on its way: the goal and what is seen lead to seen nodes only and not to the goal,
unless they are still on the stack. -/
structure Searched (nodes : List Address) (next : Address → List Address) (goal : Address)
    (stack : List Address) (seen : Std.TreeSet Address) : Prop where
  inside : ∀ node ∈ stack, node ∈ nodes
  closed : ∀ node, node = goal ∨ node ∈ seen → node ∉ stack →
    ∀ target ∈ next node, target ≠ goal ∧ target ∈ seen

/-- A search with an empty stack has found all there is to find, and no path to the goal. -/
theorem Searched.no_path {seen : Std.TreeSet Address} (done : Searched nodes next goal [] seen) :
    ¬ TransGen (fun node target => target ∈ next node) goal goal := by
  -- Along a path from the goal every node is seen, and none of them is the goal.
  have along : ∀ node, TransGen (fun node target => target ∈ next node) goal node →
      node ≠ goal ∧ node ∈ seen := by
    intro node path
    induction path with
    | single leads => exact done.closed goal (Or.inl rfl) List.not_mem_nil _ leads
    | tail _ leads ih => exact done.closed _ (Or.inr ih.2) List.not_mem_nil _ leads
  exact fun path => (along goal path).1 rfl

/-- One step of a search: a node leaves the stack, and its targets that are new go on it. -/
theorem Searched.step {node : Address} {stack : List Address} {seen : Std.TreeSet Address}
    (leads : Leads nodes next) (inv : Searched nodes next goal (node :: stack) seen)
    (missed : goal ∉ next node) :
    let fresh := (next node).filter fun target => !seen.contains target
    Searched nodes next goal (fresh ++ stack)
      (fresh.foldl (fun seen target => seen.insert target) seen) := by
  intro fresh
  have member : node ∈ nodes := inv.inside node List.mem_cons_self
  have mem_fresh : ∀ target, target ∈ fresh ↔ target ∈ next node ∧ target ∉ seen :=
    fun target => mem_filter_not_contains
  refine ⟨?_, ?_⟩
  · intro other otherMember
    rcases List.mem_append.mp otherMember with new | old
    · exact leads.inside node member other ((mem_fresh other).mp new).1
    · exact inv.inside other (List.mem_cons_of_mem _ old)
  · intro other known absent target leadsOn
    rw [mem_foldl_insert]
    have offStack : other ∉ fresh ∧ other ∉ stack := by simpa using absent
    by_cases same : other = node
    · subst same
      -- The node taken passes everything it leads to on to the stack, unless it was seen.
      refine ⟨fun reached => missed (reached ▸ leadsOn), ?_⟩
      by_cases old : target ∈ seen
      · exact Or.inr old
      · exact Or.inl ((mem_fresh target).mpr ⟨leadsOn, old⟩)
    · -- A node other than the one taken was known before.
      have before : other = goal ∨ other ∈ seen := by
        rcases known with same | seenNow
        · exact Or.inl same
        · exact Or.inr (((mem_foldl_insert _ _ _).mp seenNow).resolve_left offStack.1)
      have old := inv.closed other before (by simp [same, offStack.2]) target leadsOn
      exact ⟨old.1, Or.inr old.2⟩

/-- A step of a search has no more left to do than there was, the taken node apart. -/
theorem length_unseen_le {node : Address} (leads : Leads nodes next) (member : node ∈ nodes)
    (seen : Std.TreeSet Address) :
    let fresh := (next node).filter fun target => !seen.contains target
    let seen' := fresh.foldl (fun seen target => seen.insert target) seen
    fresh.length + (nodes.filter fun other => !seen'.contains other).length ≤
      (nodes.filter fun other => !seen.contains other).length := by
  intro fresh seen'
  -- The fresh nodes and those unseen afterwards are unseen before, and all different.
  have distinct : (fresh ++ nodes.filter fun other => !seen'.contains other).Nodup := by
    refine List.nodup_append.mpr
      ⟨(leads.once node member).filter _, leads.distinct.filter _, ?_⟩
    intro other new later unseen same
    subst same
    exact (mem_filter_not_contains.mp unseen).2 ((mem_foldl_insert _ _ _).mpr (Or.inl new))
  have subset : ∀ other ∈ fresh ++ nodes.filter (fun other => !seen'.contains other),
      other ∈ nodes.filter fun other => !seen.contains other := by
    intro other either
    rw [mem_filter_not_contains]
    rcases List.mem_append.mp either with new | unseen
    · obtain ⟨leadsOn, old⟩ := mem_filter_not_contains.mp new
      exact ⟨leads.inside node member other leadsOn, old⟩
    · obtain ⟨known, absent⟩ := mem_filter_not_contains.mp unseen
      exact ⟨known, fun old => absent ((mem_foldl_insert _ _ _).mpr (Or.inr old))⟩
  simpa using (distinct.subperm subset).length_le

/-- A search that fails with steps to spare shows that there is no path from the goal to itself. -/
theorem no_path_of_leadsTo (leads : Leads nodes next) {count : Nat} {stack : List Address}
    {seen : Std.TreeSet Address} (inv : Searched nodes next goal stack seen)
    (enough : stack.length + (nodes.filter fun node => !seen.contains node).length ≤ count)
    (failed : leadsTo next goal count stack seen = false) :
    ¬ TransGen (fun node target => target ∈ next node) goal goal := by
  -- A step costs one of the count, and pays for what it pushes with nodes unseen before it.
  induction count generalizing stack seen with
  | zero =>
    -- Without a step to spare nothing is left on the stack.
    have empty : stack = [] := List.eq_nil_of_length_eq_zero (by omega)
    exact (empty ▸ inv).no_path
  | succ count ih =>
    cases stack with
    | nil => exact inv.no_path
    | cons node stack =>
      simp only [leadsTo] at failed
      split at failed
      · exact absurd failed (by decide)
      · rename_i missed
        have bound := length_unseen_le leads (inv.inside node List.mem_cons_self) seen
        refine ih (inv.step leads (by simpa using missed)) ?_ failed
        simp only [List.length_append, List.length_cons] at bound enough ⊢
        omega

/-- The nodes found to return are those from which a path leads back to themselves. -/
theorem mem_returning (leads : Leads nodes next) {node : Address} :
    node ∈ returning nodes next ↔
      node ∈ nodes ∧ TransGen (fun node target => target ∈ next node) node node := by
  rw [returning, List.mem_filter]
  refine and_congr_right fun member => ⟨fun found => ?_, fun path => ?_⟩
  · obtain ⟨other, only, path⟩ := exists_path_of_leadsTo found
    rw [List.mem_singleton] at only
    exact only ▸ path
  · -- At the start only the node itself is known, and it is on the stack.
    have start : Searched nodes next node [node] ∅ := by
      refine ⟨?_, ?_⟩
      · intro other only
        exact List.mem_singleton.mp only ▸ member
      · intro other known absent
        rcases known with same | seen
        · exact absurd (List.mem_singleton.mpr same) absent
        · simp at seen
    -- A search that fails has seen everything that a path leads to.
    by_contra failed
    refine no_path_of_leadsTo leads start ?_ (by simpa using failed) path
    have fewer :=
      List.length_filter_le (fun other => !(∅ : Std.TreeSet Address).contains other) nodes
    rw [List.length_singleton]
    omega

end Spreadsheet.Graph
