import Spreadsheet.Proofs.Formula.Mentions
import Spreadsheet.Proofs.Sheet.Grid

/-! The graph of a sheet has the cells that the expressions of its formulas name. -/

namespace Spreadsheet

namespace Sheet

open Formula (references resolve parseSource pieces pieces_cons pieces_nil)

/-- The token scan and the expression of a source name the same cells: the references are what its
expression names from left to right, each address where it first stands, and a formula of the graph
has those of them that are in the grid. -/
theorem references_named {source : String} {expr : Formula.Expr}
    (parsed : parseSource source = .ok expr) :
    references source =
        (expr.named.filterMap fun text => (Address.parse text).toOption).eraseDups ∧
      ∀ (sheet : Sheet) (cell : Address), sheet.source? cell = some source →
        ∀ address, address ∈ sheet.graph.precedents cell ↔
          sheet.contains address = true ∧ ∃ text ∈ expr.named, resolve text = .ok address := by
  have same := Formula.references_eq_named parsed
  refine ⟨same, fun sheet cell formula address => ?_⟩
  rw [precedents_graph formula, Graph.mem_inRowOrder, List.mem_filter, same, List.mem_eraseDups,
    List.mem_filterMap, and_comm]
  simp only [Formula.toOption_parse_eq_some_iff, Formula.resolve_eq_ok_iff]

/-- A formula that names one of its cells twice, and one that is no address. -/
theorem references_sum : references "A2+sum(B1..A2,A0)" = [⟨2, 1⟩, ⟨1, 2⟩] := by
  have cut : pieces "A2+sum(B1..A2,A0)".toList =
      [.token (.plain .cell ['A', '2']), .token (.plain .plus ['+']),
        .token (.plain .identifier ['s', 'u', 'm']), .token (.plain .parenLeft ['(']),
        .token (.plain .cell ['B', '1']), .token (.plain .dotDot ['.', '.']),
        .token (.plain .cell ['A', '2']), .token (.plain .comma [',']),
        .token (.plain .cell ['A', '0']), .token (.plain .parenRight [')'])] :=
    pieces_cons rfl <| pieces_cons rfl <| pieces_cons rfl <| pieces_cons rfl <|
      pieces_cons rfl <| pieces_cons rfl <| pieces_cons rfl <| pieces_cons rfl <|
      pieces_cons rfl <| pieces_cons rfl pieces_nil
  have parsed : parseSource "A2+sum(B1..A2,A0)" = .ok (.binary .add (.cell "A2")
      (.call "sum" [.range "B1" "A2", .cell "A0"])) := by
    unfold parseSource
    rw [Formula.tokenize_of_pieces cut rfl rfl]
    rfl
  -- Of the four names the third repeats the first, and the last one names no cell.
  rw [(references_named parsed).1]
  decide

end Sheet

end Spreadsheet
