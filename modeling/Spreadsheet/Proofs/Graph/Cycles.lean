import Mathlib.Data.Fintype.Pigeonhole
import Spreadsheet.Proofs.Graph.Edits

/-! Cells on cycles of references, and cells between two such cycles. -/

namespace Spreadsheet.Graph

open Relation (TransGen ReflTransGen)

/-- A relation whose opposite never holds along a list only leads to later places of it. -/
theorem idxOf_lt_of_pairwise {cells : List Address} (leads : Address → Address → Prop)
    (ordered : cells.Pairwise fun earlier later => ¬ leads later earlier) {first second : Address}
    (firstMem : first ∈ cells) (secondMem : second ∈ cells) (distinct : first ≠ second)
    (related : leads first second) : cells.idxOf first < cells.idxOf second := by
  -- If the first were the later one, the list would rule the relation out.
  have firstPlace := List.idxOf_lt_length_of_mem firstMem
  have secondPlace := List.idxOf_lt_length_of_mem secondMem
  by_contra late
  have different : cells.idxOf second ≠ cells.idxOf first := by
    intro same
    exact distinct ((List.idxOf_inj firstMem).mp same.symm)
  have refuted := List.pairwise_iff_getElem.mp ordered _ _ secondPlace firstPlace (by omega)
  simp only [List.getElem_idxOf] at refuted
  exact refuted related

/-- Where some cells always lead on among themselves, each of them leads to a cycle. -/
theorem exists_cycle_of_forall_exists {cells : List Address} (leads : Address → Address → Prop)
    (onward : ∀ cell ∈ cells, ∃ other ∈ cells, leads cell other) {cell : Address}
    (member : cell ∈ cells) : ∃ other ∈ cells, ReflTransGen leads cell other ∧
      TransGen leads other other := by
  -- One way on is chosen for each cell, and followed from the cell.
  choose! follow followMem related using onward
  have inside : ∀ count, follow^[count] cell ∈ cells := by
    intro count
    induction count with
    | zero => exact member
    | succ count ih => exact Function.iterate_succ_apply' follow count cell ▸ followMem _ ih
  have path : ∀ start count,
      ReflTransGen leads (follow^[start] cell) (follow^[start + count] cell) ∧
      TransGen leads (follow^[start] cell) (follow^[start + count + 1] cell) := by
    intro start count
    induction count with
    | zero =>
      have edge := related _ (inside start)
      rw [← Function.iterate_succ_apply' follow] at edge
      exact ⟨.refl, .single edge⟩
    | succ count ih =>
      have edge := related _ (inside (start + count + 1))
      rw [← Function.iterate_succ_apply' follow] at edge
      exact ⟨ih.2.to_reflTransGen, ih.2.tail edge⟩
  -- Following on forever within a finite list comes back to some cell.
  obtain ⟨early, late, different, same⟩ := Finite.exists_ne_map_eq_of_infinite
    fun count => (⟨follow^[count] cell, inside count⟩ : { other // other ∈ cells })
  have meets : follow^[early] cell = follow^[late] cell := congrArg Subtype.val same
  have returns : ∀ start count, follow^[start] cell = follow^[start + count + 1] cell →
      ∃ other ∈ cells, ReflTransGen leads cell other ∧ TransGen leads other other := by
    intro start count back
    refine ⟨follow^[start] cell, inside start, ?_, ?_⟩
    · simpa using (path 0 start).1
    · simpa only [← back] using (path start count).2
  rcases Nat.lt_or_gt_of_ne different with before | after
  · refine returns early (late - early - 1) ?_
    rw [meets]
    congr 1
    omega
  · refine returns late (early - late - 1) ?_
    rw [← meets]
    congr 1
    omega

/-- A cell lies on a cycle when it leads to another cell that leads back to it. -/
def OnCycle (graph : Graph) (cell : Address) : Prop :=
  ∃ other, other ≠ cell ∧ TransGen graph.Refers cell other ∧ TransGen graph.Refers other cell

/-- A cell lies on a cycle when a path leads back to it, as no cell refers to itself. -/
theorem onCycle_iff {graph : Graph} {cell : Address} :
    graph.OnCycle cell ↔ TransGen graph.Refers cell cell := by
  -- The first reference of a path back leads to another cell already.
  constructor
  · intro onCycle
    obtain ⟨_, _, away, back⟩ := onCycle
    exact away.trans back
  · intro path
    obtain ⟨other, edge, rest⟩ := TransGen.head'_iff.mp path
    have distinct : other ≠ cell := Ne.symm edge.distinct
    refine ⟨other, distinct, .single edge, ?_⟩
    rcases Relation.reflTransGen_iff_eq_or_transGen.mp rest with same | back
    · exact absurd same.symm distinct
    · exact back

/-- A cell between cycles: on none itself, led to from one, and leading to one. -/
structure BetweenCycles (graph : Graph) (cell : Address) : Prop where
  offCycle : ¬ graph.OnCycle cell
  reached : ∃ other, graph.OnCycle other ∧ TransGen graph.Refers other cell
  reaching : ∃ other, graph.OnCycle other ∧ TransGen graph.Refers cell other

/-- A cell apart from cycles: on none, and not between them. -/
structure Apart (graph : Graph) (cell : Address) : Prop where
  offCycle : ¬ graph.OnCycle cell
  notBetween : ¬ graph.BetweenCycles cell

end Spreadsheet.Graph
