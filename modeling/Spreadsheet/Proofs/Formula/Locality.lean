import Spreadsheet.Proofs.Formula.Mentions
import Spreadsheet.Proofs.Formula.Requests

/-! A formula depends on the cells that its expression mentions and on no others. -/

namespace Spreadsheet.Formula

/-- A source that parses asks for cells that its expression mentions, whatever it is told. -/
theorem evaluateSource_asks {source : String} {expr : Expr}
    (parsed : parseSource source = .ok expr) (self : Address) (maxReads : Nat) (depth : Depth) :
    (evaluateSource ⟨self, Builtin.registry, maxReads⟩ source depth).Holds
      (fun read => expr.Mentions self read.address) fun _ => True := by
  -- A function walks through a range that the expression spans, and stays inside it.
  have walked : ∀ range, expr.HasRange range → ∀ cell ∈ range.cells, expr.Mentions self cell :=
    fun range hasRange cell member =>
      .inr ⟨range, hasRange, Range.contains_of_mem_cells member⟩
  have leads : ∀ other, parseSource source = .ok other →
      ∀ leaf ∈ other.leaves, leaf.Leads self (expr.Mentions self) expr.HasRange := by
    intro other alsoParsed
    obtain rfl := Except.ok.inj (parsed.symm.trans alsoParsed)
    exact mentions_of_leaf parsed self
  -- The ceilings let no cell be asked for that the course does not ask for.
  rw [evaluateSource_eq_bounded _ Builtin.registry_passesOn]
  exact ((sourceCourse_holds walked leads).bounded _ maxReads depth).bind fun _ _ => trivial

/-- A formula that parses reads only cells that its expression mentions; and told the same about
these, in whatever way the answers come about, it comes to the same result by the same reads. -/
theorem evaluateSource_local {formula : String} {expr : Expr} (parsed : parse formula = .ok expr)
    (self : Address) (maxReads : Nat) (depth : Depth) :
    let evaluation := evaluateSource ⟨self, Builtin.registry, maxReads⟩ (source formula) depth
    (∀ (σ : Type) (answer : Read → σ → Except EvalFault String × σ) (state : σ),
        ∀ read ∈ evaluation.requests answer state, expr.Mentions self read.address) ∧
      ∀ (σ τ : Type) (alike : σ → τ → Prop) (answer : Read → σ → Except EvalFault String × σ)
        (other : Read → τ → Except EvalFault String × τ),
        Reading.Agree (fun read => expr.Mentions self read.address) alike answer other →
        ∀ state state', alike state state' →
          (evaluation.run answer state).1 = (evaluation.run other state').1 ∧
            evaluation.requests answer state = evaluation.requests other state' := by
  intro evaluation
  -- Both parts come of one fact, that whatever is asked for is mentioned.
  have asks : evaluation.Holds (fun read => expr.Mentions self read.address) fun _ => True :=
    evaluateSource_asks parsed self maxReads depth
  constructor
  · intro σ answer state read member
    exact asks.of_mem_requests member
  · intro σ τ alike answer other agree state state' start
    obtain ⟨results, requests, _⟩ := asks.run_of_agree agree start
    exact ⟨results, requests⟩

section Chosen

/-- Chooses between a cell and the sum of a range. -/
def chosen : Expr :=
  .call "if" [.literal (.boolean true), .cell "A1", .call "sum" [.range "A1" "B2"]]

/-- The text of the choice. -/
theorem parse_chosen : parse "=if(True,A1,sum(A1..B2))" = .ok chosen := by
  have cut : pieces "if(True,A1,sum(A1..B2))".toList =
      [.token (.plain .identifier ['i', 'f']), .token (.plain .parenLeft ['(']),
        .token (.plain .trueWord ['T', 'r', 'u', 'e']), .token (.plain .comma [',']),
        .token (.plain .cell ['A', '1']), .token (.plain .comma [',']),
        .token (.plain .identifier ['s', 'u', 'm']), .token (.plain .parenLeft ['(']),
        .token (.plain .cell ['A', '1']), .token (.plain .dotDot ['.', '.']),
        .token (.plain .cell ['B', '2']), .token (.plain .parenRight [')']),
        .token (.plain .parenRight [')'])] :=
    pieces_cons rfl <| pieces_cons rfl <| pieces_cons rfl <| pieces_cons rfl <|
      pieces_cons rfl <| pieces_cons rfl <| pieces_cons rfl <| pieces_cons rfl <|
      pieces_cons rfl <| pieces_cons rfl <| pieces_cons rfl <| pieces_cons rfl <|
      pieces_cons rfl pieces_nil
  -- The sigil is not scanned, and the parser runs on the tokens by evaluation.
  show parseSource "if(True,A1,sum(A1..B2))" = .ok chosen
  unfold parseSource
  rw [tokenize_of_pieces cut rfl rfl]
  rfl

/-- The choice mentions no cell beyond the second column. -/
theorem col_le_of_chosen {self address : Address} (mentions : chosen.Mentions self address) :
    address.col ≤ 2 := by
  have leaves : chosen.leaves = [.literal (.boolean true), .cell "A1", .range "A1" "B2"] := rfl
  unfold Expr.Mentions Expr.HasRange at mentions
  simp only [leaves, List.mem_cons, List.not_mem_nil, or_false, reduceCtorEq, false_or,
    Expr.cell.injEq, Expr.range.injEq] at mentions
  rcases mentions with ⟨_, text, rfl, named⟩ | ⟨range, ⟨first, last, ⟨rfl, rfl⟩, spans⟩, inside⟩
  · obtain rfl := Except.ok.inj named
    decide
  · -- The range ends in the second column.
    obtain rfl := Value.range.inj (Except.ok.inj spans)
    have right := (Range.contains_iff.mp inside).2.2
    exact UInt32.le_iff_toNat_le.mpr right

/-- What stands beyond the second column is not read for the choice, so it makes no difference. -/
theorem evaluateSource_local_chosen :
    let near := fun (_ : Read) (_ : Unit) => ((.ok "2", ()) : Except EvalFault String × Unit)
    let far := fun (read : Read) (reads : Nat) =>
      ((if read.address.col ≤ 2 then .ok "2" else .error .outsideGrid, reads + 1) :
        Except EvalFault String × Nat)
    let evaluation := evaluateSource ⟨⟨3, 3⟩, Builtin.registry, 128⟩
      (source "=if(True,A1,sum(A1..B2))") ⟨0, 0⟩
    (∀ address, chosen.Mentions ⟨3, 3⟩ address → address.col ≤ 2) ∧
      (evaluation.run near ()).1 = (evaluation.run far 0).1 ∧
      evaluation.requests near () = evaluation.requests far 0 := by
  intro near far evaluation
  refine ⟨fun address => col_le_of_chosen, ?_⟩
  -- The second answerer counts, which changes nothing about what it tells.
  refine (evaluateSource_local parse_chosen ⟨3, 3⟩ 128 ⟨0, 0⟩).2 Unit Nat (fun _ _ => True) near far
    (fun read _ reads mentions _ => ⟨?_, trivial⟩) () 0 trivial
  exact (if_pos (col_le_of_chosen mentions)).symm

end Chosen

end Spreadsheet.Formula
