import Mathlib.Data.Finset.Card
import Spreadsheet.Proofs.Graph.Edits
import Std.Data.TreeMap.Lemmas

/-! The formula cells of a graph are those that its edits have entered and not taken out again, in
the order they were entered, each with what it was entered with last. -/

namespace Spreadsheet.Graph

variable {graph : Graph} {edits : List Edit} {change : Edit} {cell other : Address} {place : Nat}

section Latest

/-- What an edit leaves of what a cell was entered with before. -/
def Edit.leaves (cell : Address) (before : Option (List Address)) :
    Edit → Option (List Address)
  | .insert other references => if cell = other then some references else before
  | .erase other => if cell = other then none else before
  | .clear => none

/-- What a cell has been entered with last, unless it has been taken out since. -/
def latest (edits : List Edit) (cell : Address) : Option (List Address) :=
  edits.foldl (Edit.leaves cell) none

/-- One more edit comes after what the edits before it have left. -/
theorem latest_concat (edits : List Edit) (change : Edit) (cell : Address) :
    latest (edits ++ [change]) cell = change.leaves cell (latest edits cell) :=
  List.foldl_concat ..

/-- One more edit is made of the graph that the edits before it make. -/
theorem ofEdits_concat (edits : List Edit) (change : Edit) :
    ofEdits (edits ++ [change]) = (ofEdits edits).edit change :=
  List.foldl_concat ..

/-- The entry of a cell is what the cell has been entered with last, in row order. -/
theorem noted?_ofEdits (edits : List Edit) (cell : Address) :
    (ofEdits edits).noted? cell = (latest edits cell).map inRowOrder := by
  -- The last edit decides, unless it leaves the cell to the edits before it.
  induction edits using List.reverseRecOn with
  | nil => rfl
  | append_singleton edits change ih =>
    rw [ofEdits_concat, latest_concat]
    cases change with
    | insert other references =>
      show ((ofEdits edits).insert other references).noted? cell = _
      rw [noted?_insert, ih, Edit.leaves]
      split <;> rfl
    | erase other =>
      show ((ofEdits edits).erase other).noted? cell = _
      rw [noted?_erase, ih, Edit.leaves]
      split <;> rfl
    | clear => rfl

/-- The formula cells are those that have been entered and not been taken out since. -/
theorem mem_nodes_ofEdits : cell ∈ (ofEdits edits).nodes ↔ latest edits cell ≠ none := by
  rw [← isSome_noted?, noted?_ofEdits, Option.isSome_map, Option.isSome_iff_ne_none]

end Latest

section Places

/-- The edit at a place enters a cell that is not there, and no later edit takes the cell out. -/
structure EnteredAt (edits : List Edit) (cell : Address) (place : Nat) : Prop where
  entered : ∃ references, edits[place]? = some (.insert cell references)
  absent : latest (edits.take place) cell = none
  present : ∀ count, place < count → count ≤ edits.length → latest (edits.take count) cell ≠ none

/-- A cell is entered at one of the places of the edits. -/
theorem EnteredAt.lt_length (entered : EnteredAt edits cell place) : place < edits.length := by
  obtain ⟨references, found⟩ := entered.entered
  exact (List.getElem?_eq_some_iff.mp found).1

/-- A cell is there from one place on, as it is not there at that place and always after it. -/
theorem EnteredAt.unique {later : Nat} (entered : EnteredAt edits cell place)
    (enteredToo : EnteredAt edits cell later) : place = later := by
  by_contra different
  rcases Nat.lt_or_gt_of_ne different with before | after
  · exact entered.present later before enteredToo.lt_length.le enteredToo.absent
  · exact enteredToo.present place after entered.lt_length.le entered.absent

/-- A cell that stays where it is keeps the place where it was entered. -/
theorem EnteredAt.concat (entered : EnteredAt edits cell place)
    (stays : latest (edits ++ [change]) cell ≠ none) :
    EnteredAt (edits ++ [change]) cell place := by
  have less := entered.lt_length
  obtain ⟨references, found⟩ := entered.entered
  -- Up to the place nothing changes, and after it there is one more count to look at, the last.
  refine ⟨⟨references, ?_⟩, ?_, fun count above bounded => ?_⟩
  · rw [List.getElem?_append_left less, found]
  · rw [List.take_append_of_le_length less.le]
    exact entered.absent
  · rcases Nat.lt_or_ge edits.length count with last | earlier
    · rw [List.length_append, List.length_singleton] at bounded
      rw [List.take_of_length_le (by simp; omega)]
      exact stays
    · rw [List.take_append_of_le_length earlier]
      exact entered.present count above earlier

/-- A cell that is not there is entered at the next place. -/
theorem EnteredAt.last {references : List Address} (missing : latest edits cell = none) :
    EnteredAt (edits ++ [.insert cell references]) cell edits.length := by
  refine ⟨⟨references, List.getElem?_concat_length⟩, ?_, fun count above bounded => ?_⟩
  · rw [List.take_left]
    exact missing
  · rw [List.take_of_length_le (by simp; omega), latest_concat, Edit.leaves, if_pos rfl]
    exact Option.some_ne_none references

/-- Two cells have been entered one after the other. -/
def EnteredInTurn (edits : List Edit) (earlier later : Address) : Prop :=
  ∃ first second, EnteredAt edits earlier first ∧ EnteredAt edits later second ∧ first < second

/-- The formula cells have been entered at places, one after the other. -/
structure InTurn (edits : List Edit) (nodes : List Address) : Prop where
  entered : ∀ cell ∈ nodes, ∃ place, EnteredAt edits cell place
  ordered : nodes.Pairwise (EnteredInTurn edits)

/-- Formula cells that stay keep their places. -/
theorem InTurn.concat {nodes : List Address} (turns : InTurn edits nodes)
    (stay : ∀ cell ∈ nodes, latest (edits ++ [change]) cell ≠ none) :
    InTurn (edits ++ [change]) nodes := by
  refine ⟨fun cell member => ?_, turns.ordered.imp_of_mem fun earlierMem laterMem pair => ?_⟩
  · obtain ⟨place, entered⟩ := turns.entered cell member
    exact ⟨place, entered.concat (stay cell member)⟩
  · obtain ⟨first, second, entered, enteredToo, less⟩ := pair
    exact ⟨first, second, entered.concat (stay _ earlierMem),
      enteredToo.concat (stay _ laterMem), less⟩

/-- Some of the formula cells have been entered in turn, too. -/
theorem InTurn.sublist {nodes some : List Address} (turns : InTurn edits nodes)
    (sub : some.Sublist nodes) : InTurn edits some :=
  ⟨fun cell member => turns.entered cell (sub.subset member), turns.ordered.sublist sub⟩

/-- A cell that is newly entered comes after all others, which have been entered at earlier
places. -/
theorem InTurn.append {nodes references : List Address} (turns : InTurn edits nodes)
    (missing : latest edits cell = none)
    (stay : ∀ node ∈ nodes, latest (edits ++ [.insert cell references]) node ≠ none) :
    InTurn (edits ++ [.insert cell references]) (nodes ++ [cell]) := by
  have kept := turns.concat stay
  have last : EnteredAt (edits ++ [.insert cell references]) cell edits.length :=
    EnteredAt.last missing
  -- The new cell is entered by the very last edit, and all others before that.
  refine ⟨fun node member => ?_, List.pairwise_append.mpr
    ⟨kept.ordered, List.pairwise_singleton _ _, fun earlier member later same => ?_⟩⟩
  · rcases List.mem_append.mp member with old | new
    · exact kept.entered node old
    · rw [List.mem_singleton.mp new]
      exact ⟨edits.length, last⟩
  · rw [List.mem_singleton.mp same]
    obtain ⟨place, entered⟩ := turns.entered earlier member
    exact ⟨place, edits.length, entered.concat (stay earlier member), last, entered.lt_length⟩

/-- The formula cells of a graph have been entered in their order. -/
theorem inTurn_ofEdits (edits : List Edit) : InTurn edits (ofEdits edits).nodes := by
  -- The last edit adds a cell at the end, takes cells out, or leaves the cells as they are.
  induction edits using List.reverseRecOn with
  | nil => exact ⟨fun cell member => absurd member List.not_mem_nil, List.Pairwise.nil⟩
  | append_singleton edits change ih =>
    have stay : ∀ cell ∈ ((ofEdits edits).edit change).nodes,
        latest (edits ++ [change]) cell ≠ none := fun cell member =>
      mem_nodes_ofEdits.mp (ofEdits_concat edits change ▸ member)
    rw [ofEdits_concat]
    cases change with
    | insert cell references =>
      simp only [Graph.edit, nodes_insert] at stay ⊢
      split at stay
      · rename_i known
        rw [if_pos known]
        exact ih.concat stay
      · rename_i unknown
        rw [if_neg unknown]
        have missing : latest edits cell = none := by_contra (mt mem_nodes_ofEdits.mpr unknown)
        exact ih.append missing fun node member => stay node (List.mem_append_left _ member)
    | erase cell =>
      simp only [Graph.edit, nodes_erase] at stay ⊢
      exact (ih.sublist List.filter_sublist).concat stay
    | clear => exact ⟨fun cell member => absurd member List.not_mem_nil, List.Pairwise.nil⟩

end Places

section Parts

/-- A graph in two parts: its formula cells in the order they were entered, and what each of some
cells refers to. -/
structure Parts where
  nodes : List Address
  references : Std.TreeMap Address (List Address)

namespace Parts

/-- The parts of the graph of no cells. -/
def empty : Parts := ⟨[], ∅⟩

/-- Makes an edit of both parts, each by itself. -/
def edit (parts : Parts) : Edit → Parts
  | .insert cell references =>
    ⟨if parts.references.contains cell then parts.nodes else parts.nodes ++ [cell],
      parts.references.insert cell (inRowOrder references)⟩
  | .erase cell =>
    if parts.references.contains cell then
      ⟨parts.nodes.filter (· != cell), parts.references.erase cell⟩
    else parts
  | .clear => empty

/-- The parts that some edits make out of those of the graph of no cells. -/
def ofEdits (edits : List Edit) : Parts :=
  edits.foldl edit empty

end Parts

/-- Two parts that have the formula cells of a graph and the entries of these and no others. -/
structure Agree (graph : Graph) (parts : Parts) : Prop where
  nodes : parts.nodes = graph.nodes
  references : ∀ cell, parts.references[cell]? = graph.noted? cell

/-- The keys of the references are the formula cells. -/
theorem Agree.contains {parts : Parts} (agree : Agree graph parts) :
    parts.references.contains cell = true ↔ cell ∈ graph.nodes := by
  rw [Std.TreeMap.contains_eq_isSome_getElem?, agree.references, isSome_noted?]

/-- An edit of both parts keeps them in agreement. -/
theorem Agree.edit {parts : Parts} (agree : Agree graph parts) :
    ∀ change, Agree (graph.edit change) (parts.edit change)
  | .insert cell references => by
    -- The order asks the entries whether the cell is known, and agrees with the graph on that.
    refine ⟨?_, fun other => ?_⟩
    · show (if parts.references.contains cell then _ else _) = (graph.insert cell references).nodes
      rw [nodes_insert, agree.nodes]
      simp only [agree.contains]
    · show (parts.references.insert cell _)[other]? = (graph.insert cell references).noted? other
      rw [noted?_insert, Std.TreeMap.getElem?_insert, agree.references]
      exact if_congr (Std.LawfulEqOrd.compare_eq_iff_eq.trans eq_comm) rfl rfl
  | .erase cell => by
    by_cases known : cell ∈ graph.nodes
    · have parted : parts.edit (.erase cell) =
          ⟨parts.nodes.filter (· != cell), parts.references.erase cell⟩ :=
        if_pos (agree.contains.mpr known)
      rw [parted]
      refine ⟨?_, fun other => ?_⟩
      · show parts.nodes.filter _ = (graph.erase cell).nodes
        rw [nodes_erase, agree.nodes]
      · show (parts.references.erase cell)[other]? = (graph.erase cell).noted? other
        rw [noted?_erase, Std.TreeMap.getElem?_erase, agree.references]
        exact if_congr (Std.LawfulEqOrd.compare_eq_iff_eq.trans eq_comm) rfl rfl
    · -- There is nothing to take out of either part, nor of the graph.
      have parted : parts.edit (.erase cell) = parts := if_neg (mt agree.contains.mp known)
      rw [parted]
      refine ⟨?_, fun other => ?_⟩
      · show parts.nodes = (graph.erase cell).nodes
        rw [nodes_erase, agree.nodes, List.filter_eq_self.mpr]
        exact fun other member => bne_iff_ne.mpr fun same => known (same ▸ member)
      · show parts.references[other]? = (graph.erase cell).noted? other
        rw [noted?_erase, agree.references]
        split
        · rename_i same
          rw [same, ← Option.not_isSome_iff_eq_none, isSome_noted?]
          exact known
        · rfl
  | .clear => ⟨rfl, fun _ => rfl⟩

/-- The parts that edits make agree with the graph that they make. -/
theorem agree_ofEdits (edits : List Edit) : Agree (ofEdits edits) (Parts.ofEdits edits) := by
  -- Each edit of the run keeps them in agreement.
  have run : ∀ graph parts, Agree graph parts →
      Agree (edits.foldl Graph.edit graph) (edits.foldl Parts.edit parts) := by
    induction edits with
    | nil => exact fun _ _ agree => agree
    | cons change rest ih => exact fun graph parts agree => ih _ _ (agree.edit change)
  exact run _ _ ⟨rfl, fun _ => rfl⟩

end Parts

section Dependents

/-- In a graph whose cells are entered once each a cell refers to what stands in its entry. -/
theorem Tidy.precedents_of_mem (tidy : Tidy graph) {entry : Address × List Address}
    (member : entry ∈ graph.entries) : graph.precedents entry.1 = entry.2 := by
  unfold precedents
  cases found : graph.entries.find? fun other => other.1 == entry.1 with
  | none => exact absurd (beq_self_eq_true entry.1) (List.find?_eq_none.mp found entry member)
  | some other =>
    have named : other.1 = entry.1 := by simpa using List.find?_some found
    have there := List.mem_of_find?_eq_some found
    exact congrArg Prod.snd (List.inj_on_of_nodup_map tidy.distinct there member named)

/-- The formula cells that refer to a cell are picked from the formula cells in their order. -/
theorem Tidy.dependents_eq (tidy : Tidy graph) (cell : Address) : graph.dependents cell =
    graph.nodes.filter fun node => (graph.precedents node).contains cell := by
  rw [dependents, nodes, List.filter_map]
  refine congrArg _ (List.filter_congr fun entry member => ?_)
  rw [Function.comp_apply, tidy.precedents_of_mem member]

/-- The degree of a cell counts the formula cells other than itself that refer to it. -/
theorem Tidy.inDegree_eq (tidy : Tidy graph) (cell : Address) :
    graph.inDegree cell = ((graph.dependents cell).toFinset.erase cell).card := by
  have distinct : (graph.dependents cell).Nodup := by
    rw [tidy.dependents_eq]
    exact tidy.distinct.filter _
  rw [inDegree, ← List.toFinset_card_of_nodup (distinct.filter _)]
  congr 1
  ext node
  simp [and_comm]

end Dependents

/-- Whatever edits have made of the graph of no cells, its formula cells are told once each, in the
order in which they were newly entered and not taken out since, and are the cells that have an
entry; this is so, too, where the order and the entries are kept apart. A cell refers to what it was
entered with last, each once. The formula cells that refer to it are those that it is a precedent
of, each once and in order, and its degree counts those of them other than itself. -/
theorem ofEdits_consistent (edits : List Edit) :
    let graph := ofEdits edits
    let parts := Parts.ofEdits edits
    -- The formula cells are the keys of the entries, with the order kept apart from these.
    graph.nodes.Nodup ∧ parts.nodes = graph.nodes ∧
      (∀ cell, (cell ∈ graph.nodes ↔ graph.contains cell = true) ∧
        (cell ∈ graph.nodes ↔ cell ∈ parts.references) ∧
        (cell ∈ graph.nodes ↔ ∃! place, EnteredAt edits cell place)) ∧
      graph.nodes.Pairwise (EnteredInTurn edits) ∧
      -- What a cell refers to.
      (∀ cell, graph.precedents cell = parts.references.getD cell [] ∧
        (graph.precedents cell).Nodup ∧ ∀ other, other ∈ graph.precedents cell ↔
          ∃ references, latest edits cell = some references ∧ other ∈ references) ∧
      -- What refers to a cell.
      ∀ cell, (∀ node, node ∈ graph.dependents cell ↔
          node ∈ graph.nodes ∧ cell ∈ graph.precedents node) ∧
        (graph.dependents cell).Sublist graph.nodes ∧ (graph.dependents cell).Nodup ∧
        graph.inDegree cell = ((graph.dependents cell).toFinset.erase cell).card := by
  intro graph parts
  have tidy : Tidy graph := ofEdits_tidy edits
  have agree : Agree graph parts := agree_ofEdits edits
  have turns : InTurn edits graph.nodes := inTurn_ofEdits edits
  -- What is told of the cells, of their entries and of the order comes from one invariant each.
  refine ⟨tidy.distinct, agree.nodes, fun cell => ⟨contains_eq_true_iff.symm, ?_, ?_⟩,
    turns.ordered, fun cell => ⟨?_, ?_, fun other => ?_⟩, fun cell => ⟨fun node => ?_, ?_, ?_,
    tidy.inDegree_eq cell⟩⟩
  · rw [← agree.contains]
    exact Std.TreeMap.contains_iff_mem
  · refine ⟨fun member => ?_, fun entered => ?_⟩
    · obtain ⟨place, entered⟩ := turns.entered cell member
      exact ⟨place, entered, fun other enteredToo => enteredToo.unique entered⟩
    · obtain ⟨place, entered, _⟩ := entered
      have present := entered.present edits.length entered.lt_length le_rfl
      rw [List.take_length] at present
      exact mem_nodes_ofEdits.mpr present
  · rw [precedents_eq, Std.TreeMap.getD_eq_getD_getElem?, agree.references]
  · exact nodup_of_pairwise_before (tidy.pairwise_precedents cell)
  · rw [precedents_eq, noted?_ofEdits]
    cases latest edits cell with
    | none => simp
    | some references => simp [mem_inRowOrder]
  · rw [tidy.dependents_eq, List.mem_filter, List.contains_iff_mem]
  · rw [tidy.dependents_eq]
    exact List.filter_sublist
  · rw [tidy.dependents_eq]
    exact tidy.distinct.filter _

end Spreadsheet.Graph
