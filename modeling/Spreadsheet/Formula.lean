import Spreadsheet.Formula.Grammar
import Spreadsheet.Formula.Scan
import Spreadsheet.Formula.Steady

/-! Formulas as text: what they mean, what they refer to, and what a sheet shows for them. -/

namespace Spreadsheet.Formula

/-- The character that a formula starts with in a cell. -/
def sigil : Char := '='

/-- The text after the sigil, if a text starts with it. -/
def afterSigil? (text : String) : Option String :=
  match text.toList with
  | [] => none
  | first :: rest => if first = sigil then some (String.ofList rest) else none

/-- A formula's text without the sigil, which may be left out. -/
def source (formula : String) : String :=
  (afterSigil? formula).getD formula

/-- The expression that a source is. -/
def parseSource (source : String) : Except Fault Expr :=
  match tokenize source with
  | .error fault => .error (.scan fault)
  | .ok tokens => (parseTokens tokens).mapError .parse

/-- The expression that a formula is. -/
def parse (formula : String) : Except Fault Expr :=
  parseSource (source formula)

/-- The value of a source from a depth, and the depth afterwards. -/
def evaluateSource (scope : Scope) (source : String) (depth : Depth) :
    Reading Read (Except Fault Value × Depth) :=
  match parseSource source with
  | .error fault => .done (.error fault, depth)
  | .ok expr => do
    let (result, depth) ← (evaluate scope expr).startAt depth
    return (result.mapError .eval, depth)

/-- A source is read strictly deeper in expressions than where its evaluation starts. -/
theorem evaluateSource_reads_below (scope : Scope) (source : String) (depth : Depth) :
    (evaluateSource scope source depth).Holds
      (fun read => read.Below depth ∧ depth.nodes < read.depth.nodes) (fun _ => True) := by
  unfold evaluateSource
  split
  · trivial
  · exact .bind (evaluate_reads_below _ _ _) fun _ _ => trivial

/-- The text of a result, or the fault that there is in place of one. -/
def displayed (result : Except Fault Value) : Except Fault String :=
  match result with
  | .error fault => .error fault
  | .ok value => value.display.mapError .eval

/-- What a sheet shows for a result: its text, or the marker of the fault. -/
def shown (result : Except Fault Value) : String :=
  match displayed result with
  | .ok text => text
  | .error fault => fault.marker

/-- Some addresses without those that stand in the list before. -/
def distinct : List Address → List Address
  | [] => []
  | address :: rest => address :: (distinct rest).filter fun other => other != address

/-- The addresses that tokens name, each where it is first named; ends of ranges are among them. -/
def tokenReferences (tokens : List Token) : List Address :=
  distinct ((tokens.filter fun token => token.kind = .cell).filterMap fun token =>
    (Address.parse token.lexeme).toOption)

/-- The addresses that a source names; a text that cannot be scanned names none. -/
def references (source : String) : List Address :=
  match tokenize source with
  | .ok tokens => tokenReferences tokens
  | .error _ => []

end Spreadsheet.Formula
