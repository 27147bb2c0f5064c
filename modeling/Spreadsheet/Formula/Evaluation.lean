import Spreadsheet.Formula.Builtin
import Spreadsheet.Formula.Expr

/-! Evaluating an expression: operands from left to right, with one ceiling on reads in progress and
another on expressions in progress. -/

namespace Spreadsheet.Formula

/-- How deep an evaluation is in reads of cells and in expressions, over all cells in progress. -/
structure Depth where
  reads : Nat
  nodes : Nat
  deriving DecidableEq

/-- A request for the text of a cell, made at a depth. -/
structure Read where
  address : Address
  depth : Depth
  deriving DecidableEq

/-- The ceiling on reads in progress unless another is set. -/
def defaultMaxReads : Nat := 128

/-- The ceiling on expressions in progress. -/
def maxNodes : Nat := 512

/-- What an evaluation refers to beside its expression. -/
structure Scope where
  self : Address
  registry : Registry
  maxReads : Nat

/-- A computation that asks for texts, keeps track of its depth, and may fail. -/
abbrev Evaluation (α : Type) := ExceptT EvalFault (StateT Depth (Reading Read)) α

namespace Evaluation

/-- An evaluation that starts at a depth, and ends with a result or a fault at some depth. -/
def startAt {α : Type} (evaluation : Evaluation α) (depth : Depth) :
    Reading Read (Except EvalFault α × Depth) :=
  evaluation depth

/-- The evaluation that is given by what it does from each depth. -/
def ofStart {α : Type} (start : Depth → Reading Read (Except EvalFault α × Depth)) :
    Evaluation α :=
  start

/-- Runs an evaluation as one more expression in progress, if the ceiling allows one more. -/
def atNode {α : Type} (evaluation : Evaluation α) : Evaluation α :=
  ofStart fun depth =>
    if maxNodes ≤ depth.nodes then .done (.error .circular, depth)
    else do
      let (result, depth) ← evaluation.startAt { depth with nodes := depth.nodes + 1 }
      return (result, { depth with nodes := depth.nodes - 1 })

/-- Runs a computation that reads by address alone, each read being one more in progress. -/
def ofReading {α : Type} (maxReads : Nat) :
    Reading Address α → Depth → Reading Read (α × Depth)
  | .done result, depth => .done (result, depth)
  | .ask address next, depth =>
    if maxReads ≤ depth.reads then ofReading maxReads (next (.error .circular)) depth
    else .ask ⟨address, { depth with reads := depth.reads + 1 }⟩ fun answer =>
      ofReading maxReads (next answer) depth

/-- Reads the text of a cell, if the ceiling allows one more read. -/
def readCell (maxReads : Nat) (address : Address) : Evaluation String :=
  ofStart (ofReading maxReads (.ask address .done))

end Evaluation

/-- The address a reference names. -/
def resolve (text : String) : Except EvalFault Address :=
  match Address.parse text with
  | .ok address => .ok address
  | .error _ => .error .outsideGrid

/-- The range two references span. -/
def resolveRange (first last : String) : Except EvalFault Value := do
  let first ← resolve first
  let last ← resolve last
  return .range (Range.ofCorners first last)

/-- Adds numbers, and joins texts when there is a text on either side. -/
def addValues : Value → Value → Except EvalFault Value
  | .number left, .number right => .ok (.number (left + right))
  | .number left, .text right => .ok (.text (Number.text left ++ right))
  | .text left, .number right => .ok (.text (left ++ Number.text right))
  | .text left, .text right => .ok (.text (left ++ right))
  | _, _ => .error .incompatibleOperands

/-- Applies an operation on numbers to two values. -/
def onNumbers (left right : Value) (operation : Float → Float → Value) :
    Except EvalFault Value :=
  match left, right with
  | .number left, .number right => .ok (operation left right)
  | _, _ => .error .incompatibleOperands

/-- What an operator makes of its operands. -/
def BinaryOp.apply (left right : Value) : BinaryOp → Except EvalFault Value
  | .add => addValues left right
  | .subtract => onNumbers left right fun x y => .number (x - y)
  | .multiply => onNumbers left right fun x y => .number (x * y)
  | .divide => onNumbers left right fun x y => .number (x / y)
  | .equal => .ok (.boolean (left.equal right))
  | .notEqual => .ok (.boolean (!left.equal right))
  | .less => onNumbers left right fun x y => .boolean (x < y)
  | .lessEqual => onNumbers left right fun x y => .boolean (x ≤ y)
  | .greater => onNumbers left right fun x y => .boolean (y < x)
  | .greaterEqual => onNumbers left right fun x y => .boolean (y ≤ x)

/-- The opposite of a truth value. -/
def negate : Value → Except EvalFault Value
  | .boolean truth => .ok (.boolean !truth)
  | _ => .error .incompatibleOperands

/-- Reads the cell a reference names; a formula may not read its own cell this way. -/
def Scope.readReference (scope : Scope) (text : String) : Evaluation Value := do
  let address ← (resolve text : Except EvalFault Address)
  if address = scope.self then throw .ownCell
  else
    let shown ← Evaluation.readCell scope.maxReads address
    return Value.ofCellText shown

mutual

/-- The value of an expression; the function of a call is looked up before its arguments. -/
def evaluate (scope : Scope) : Expr → Evaluation Value
  | .literal value => .atNode (pure value)
  | .cell text => .atNode (scope.readReference text)
  | .range first last => .atNode (resolveRange first last : Except EvalFault Value)
  | .binary op left right => .atNode do
    let left ← evaluate scope left
    let right ← evaluate scope right
    op.apply left right
  | .negation operand => .atNode do
    let value ← evaluate scope operand
    negate value
  | .group inner => .atNode (evaluate scope inner)
  | .call name args => .atNode do
    match scope.registry.find? name with
    | none => throw .unknownFunction
    | some function =>
      let values ← evaluateAll scope args
      .ofStart (Evaluation.ofReading scope.maxReads (function.call scope.self values))

/-- The values of some expressions, from left to right. -/
def evaluateAll (scope : Scope) : List Expr → Evaluation (List Value)
  | [] => pure []
  | expr :: rest => do
    let value ← evaluate scope expr
    let values ← evaluateAll scope rest
    return value :: values

end

end Spreadsheet.Formula
