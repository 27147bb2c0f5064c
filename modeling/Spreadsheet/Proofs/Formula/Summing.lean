import Spreadsheet.Formula
import Spreadsheet.Proofs.Formula.Requests
import Spreadsheet.Proofs.Range.Text
import Spreadsheet.Proofs.Text.Blank

/-! Summing a range: its cells are read in row order, each once, up to the first of them that cannot
be added. -/

namespace Spreadsheet

namespace Formula

variable {σ : Type} {maxReads : Nat} {depth : Depth}
  {answer : Read → σ → Except EvalFault String × σ}

section Adding

end Adding

section Asking

/-- The request for a cell that is made from a depth. -/
def Read.further (depth : Depth) (address : Address) : Read :=
  ⟨address, ⟨depth.reads + 1, depth.nodes⟩⟩

variable {front : List Address} {addends : List (Option Float)} {state : σ}

end Asking

section Corners

variable {scope : Scope}

end Corners

end Formula

end Spreadsheet
