import Mathlib.Data.List.Nodup
import Mathlib.Logic.Relation
import Spreadsheet.Proofs.Graph.RowOrder

/-! Graphs as edits build them, and which of their cells refer to which. -/

namespace Spreadsheet.Graph

/-- An edit of a graph. -/
inductive Edit where
  | insert (cell : Address) (references : List Address)
  | erase (cell : Address)
  | clear

/-- Makes an edit. -/
def edit (graph : Graph) : Edit → Graph
  | .insert cell references => graph.insert cell references
  | .erase cell => graph.erase cell
  | .clear => Graph.empty

/-- The graph that some edits make out of the graph of no cells. -/
def ofEdits (edits : List Edit) : Graph :=
  edits.foldl edit Graph.empty

/-- A graph whose cells are entered once each, with what they refer to in row order. -/
structure Tidy (graph : Graph) : Prop where
  distinct : graph.nodes.Nodup
  ordered : ∀ entry ∈ graph.entries, entry.2.Pairwise Address.Before

/-- Asking whether a cell is a formula cell looks for it among the nodes. -/
@[simp] theorem contains_eq_true_iff {graph : Graph} {cell : Address} :
    graph.contains cell = true ↔ cell ∈ graph.nodes := by
  simp [contains, nodes]

/-- Entering a cell that is there keeps the nodes, and one that is not comes last. -/
theorem nodes_insert (graph : Graph) (cell : Address) (references : List Address) :
    (graph.insert cell references).nodes =
      if cell ∈ graph.nodes then graph.nodes else graph.nodes ++ [cell] := by
  unfold Graph.insert
  -- A cell that is known has its entry replaced where it stands.
  by_cases known : cell ∈ graph.nodes
  · -- The entry that is replaced keeps its cell.
    have kept : ∀ other : Address × List Address,
        (if other.1 = cell then (cell, inRowOrder references) else other).1 = other.1 := by
      intro other
      split
      · exact Eq.symm ‹_›
      · rfl
    rw [if_pos (contains_eq_true_iff.mpr known), if_pos known]
    simp [nodes, List.map_map, Function.comp_def, kept]
  · rw [if_neg (mt contains_eq_true_iff.mp known), if_neg known]
    simp [nodes]

/-- Taking a cell out leaves the other nodes in their order. -/
theorem nodes_erase (graph : Graph) (cell : Address) :
    (graph.erase cell).nodes = graph.nodes.filter (· != cell) := by
  simp [erase, nodes, List.filter_map, Function.comp_def]

/-- The graph of no cells is tidy. -/
theorem Tidy.empty : Tidy Graph.empty :=
  ⟨List.nodup_nil, fun _ member => absurd member List.not_mem_nil⟩

/-- Entering a cell keeps a graph tidy. -/
theorem Tidy.insert {graph : Graph} (tidy : Tidy graph) (cell : Address)
    (references : List Address) : Tidy (graph.insert cell references) := by
  -- Nodes stay distinct since a cell is added only if it is new.
  refine ⟨?_, ?_⟩
  · rw [nodes_insert]
    split
    · exact tidy.distinct
    · rename_i unknown
      rw [← List.concat_eq_append]
      exact tidy.distinct.concat unknown
  · -- The new entry is sorted as it is made, and the others were in order before.
    intro entry member
    unfold Graph.insert at member
    split at member
    · obtain ⟨other, otherMember, same⟩ := List.mem_map.mp member
      split at same
      · exact same ▸ pairwise_inRowOrder references
      · exact same ▸ tidy.ordered other otherMember
    · rcases List.mem_append.mp member with old | new
      · exact tidy.ordered entry old
      · rw [List.mem_singleton.mp new]
        exact pairwise_inRowOrder references

/-- Taking a cell out keeps a graph tidy. -/
theorem Tidy.erase {graph : Graph} (tidy : Tidy graph) (cell : Address) :
    Tidy (graph.erase cell) := by
  refine ⟨?_, ?_⟩
  · rw [nodes_erase]
    exact tidy.distinct.filter _
  · intro entry member
    exact tidy.ordered entry (List.mem_filter.mp member).1

/-- Every edit keeps a graph tidy. -/
theorem Tidy.edit {graph : Graph} (tidy : Tidy graph) : ∀ change, Tidy (graph.edit change)
  | .insert cell references => tidy.insert cell references
  | .erase cell => tidy.erase cell
  | .clear => .empty

/-- Every graph that edits make is tidy. -/
theorem ofEdits_tidy (edits : List Edit) : Tidy (ofEdits edits) := by
  -- Each edit of the run keeps what the graph before it had.
  have run : ∀ graph, Tidy graph → Tidy (edits.foldl Graph.edit graph) := by
    induction edits with
    | nil => exact fun _ tidy => tidy
    | cons change rest ih => exact fun graph tidy => ih _ (tidy.edit change)
  exact run _ .empty

/-- What a cell refers to stands in the entry of the cell. -/
theorem exists_entry_of_mem_precedents {graph : Graph} {cell other : Address}
    (member : other ∈ graph.precedents cell) :
    ∃ entry ∈ graph.entries, entry.1 = cell ∧ graph.precedents cell = entry.2 := by
  -- A cell without an entry refers to nothing, so there is an entry.
  unfold precedents at member ⊢
  cases found : graph.entries.find? fun entry => entry.1 == cell with
  | none => simp [found] at member
  | some entry =>
    have named : entry.1 = cell := by simpa using List.find?_some found
    exact ⟨entry, List.mem_of_find?_eq_some found, named, rfl⟩

/-- The cells that a cell of a tidy graph refers to are in row order. -/
theorem Tidy.pairwise_precedents {graph : Graph} (tidy : Tidy graph) (cell : Address) :
    (graph.precedents cell).Pairwise Address.Before := by
  -- A cell that refers to something has an entry, which was sorted as it was made.
  rcases List.eq_nil_or_concat (graph.precedents cell) with none | ⟨initial, last, some⟩
  · simp [none]
  · have present : last ∈ graph.precedents cell := by simp [some]
    obtain ⟨entry, member, _, same⟩ := exists_entry_of_mem_precedents present
    rw [same]
    exact tidy.ordered entry member

/-- A formula cell refers to another formula cell. -/
structure Refers (graph : Graph) (cell other : Address) : Prop where
  cell_mem : cell ∈ graph.nodes
  other_mem : other ∈ graph.nodes
  distinct : cell ≠ other
  precedent : other ∈ graph.precedents cell

/-- The targets of a cell are the other formula cells it refers to. -/
@[simp] theorem mem_targets {graph : Graph} {cell other : Address} :
    other ∈ graph.targets cell ↔ graph.Refers cell other := by
  simp only [targets, List.mem_filter, Bool.and_eq_true, bne_iff_ne, contains_eq_true_iff]
  constructor
  · intro target
    obtain ⟨precedent, distinct, known⟩ := target
    obtain ⟨entry, member, named, _⟩ := exists_entry_of_mem_precedents precedent
    exact ⟨List.mem_map.mpr ⟨entry, member, named⟩, known, Ne.symm distinct, precedent⟩
  · intro refers
    obtain ⟨_, known, distinct, precedent⟩ := refers
    exact ⟨precedent, Ne.symm distinct, known⟩

/-- The targets of a cell are told once each. -/
theorem Tidy.nodup_targets {graph : Graph} (tidy : Tidy graph) (cell : Address) :
    (graph.targets cell).Nodup :=
  (nodup_of_pairwise_before (tidy.pairwise_precedents cell)).filter _

section Precedents

variable {graph : Graph} {cell other : Address}

/-- What a cell has been entered with, if it is a formula cell. -/
def noted? (graph : Graph) (cell : Address) : Option (List Address) :=
  (graph.entries.find? fun entry => entry.1 == cell).map Prod.snd

/-- A cell refers to what it has been entered with. -/
theorem precedents_eq (graph : Graph) (cell : Address) :
    graph.precedents cell = (graph.noted? cell).getD [] := by
  unfold precedents noted?
  cases graph.entries.find? fun entry => entry.1 == cell <;> rfl

/-- The formula cells are those that have an entry. -/
theorem isSome_noted? : (graph.noted? cell).isSome = true ↔ cell ∈ graph.nodes := by
  simp [noted?, nodes]

/-- Entering a cell leaves the entries of other cells. -/
theorem noted?_insert (graph : Graph) (cell : Address) (references : List Address)
    (other : Address) : (graph.insert cell references).noted? other =
      if other = cell then some (inRowOrder references) else graph.noted? other := by
  unfold Graph.insert noted?
  dsimp only
  split
  · rename_i known
    -- The entry of the cell is replaced where it stands, and every entry keeps its cell.
    have kept : ((fun entry : Address × List Address => entry.1 == other) ∘ fun entry =>
        if entry.1 = cell then (cell, inRowOrder references) else entry) =
          fun entry => entry.1 == other := by
      funext entry
      by_cases here : entry.1 = cell <;> simp [here]
    rw [List.find?_map, kept]
    cases found : graph.entries.find? fun entry => entry.1 == other with
    | none =>
      have different : other ≠ cell := by
        rintro rfl
        obtain ⟨entry, member, named⟩ := List.any_eq_true.mp known
        exact List.find?_eq_none.mp found entry member named
      rw [if_neg different]
      rfl
    | some entry =>
      have named : entry.1 = other := by simpa using List.find?_some found
      by_cases same : other = cell <;> simp [named, same]
  · rename_i unknown
    dsimp only
    rw [List.find?_append]
    by_cases same : other = cell
    · -- The cell had no entry, so the new one is found.
      subst same
      have absent : graph.entries.find? (fun entry => entry.1 == other) = none := by
        rw [List.find?_eq_none]
        intro entry member named
        exact unknown (List.any_eq_true.mpr ⟨entry, member, named⟩)
      simp [absent]
    · have elsewhere : (cell == other) = false := by simpa using Ne.symm same
      simp [same, elsewhere]

/-- Taking a cell out leaves the entries of other cells. -/
theorem noted?_erase (graph : Graph) (cell other : Address) :
    (graph.erase cell).noted? other = if other = cell then none else graph.noted? other := by
  unfold Graph.erase noted?
  dsimp only
  rw [List.find?_filter]
  -- Looking past the entries of the cell finds the same entry for any other cell.
  split
  · rename_i same
    subst same
    rw [Option.map_eq_none_iff, List.find?_eq_none]
    intro entry _ named
    simp at named
  · rename_i different
    congr 2
    funext entry
    by_cases here : entry.1 = other <;> simp [here, different]

/-- Entering a cell with what it refers to leaves what other cells refer to. -/
theorem precedents_insert (graph : Graph) (cell : Address) (references : List Address)
    (other : Address) : (graph.insert cell references).precedents other =
      if other = cell then inRowOrder references else graph.precedents other := by
  rw [precedents_eq, precedents_eq, noted?_insert]
  split <;> rfl

/-- Entering formulas leaves what cells refer to that are not among them. -/
theorem precedents_foldl_insert (entered : List (Address × String))
    (targets : String → List Address) (graph : Graph) (absent : other ∉ entered.map Prod.fst) :
    (entered.foldl (fun graph (address, source) =>
      graph.insert address (targets source)) graph).precedents other = graph.precedents other := by
  induction entered generalizing graph with
  | nil => rfl
  | cons entry rest ih =>
    rw [List.map_cons, List.mem_cons, not_or] at absent
    obtain ⟨different, absent⟩ := absent
    rw [List.foldl_cons, ih _ absent, precedents_insert, if_neg different]

/-- Formulas that are entered once each refer to what they are entered with. -/
theorem precedents_of_mem_entered {entered : List (Address × String)} {source : String}
    (targets : String → List Address) (graph : Graph) (distinct : (entered.map Prod.fst).Nodup)
    (member : (cell, source) ∈ entered) :
    (entered.foldl (fun graph (address, source) =>
      graph.insert address (targets source)) graph).precedents cell =
        inRowOrder (targets source) := by
  -- The entry that counts is the only one for the cell, and later ones leave it.
  induction entered generalizing graph with
  | nil => exact nomatch member
  | cons entry rest ih =>
    obtain ⟨fresh, distinct⟩ := List.nodup_cons.mp distinct
    rw [List.foldl_cons]
    rcases List.mem_cons.mp member with rfl | later
    · -- No formula that comes later is at the same address.
      rw [precedents_foldl_insert rest targets _ fresh, precedents_insert, if_pos rfl]
    · exact ih _ distinct later

end Precedents

end Spreadsheet.Graph
