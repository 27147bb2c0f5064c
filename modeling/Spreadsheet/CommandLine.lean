import Spreadsheet.CommandLine.Arguments
import Spreadsheet.CommandLine.Loading
import Spreadsheet.Sheet.Recalculation

/-! The command line: evaluate a formula, print its tokens or its expression, or compute a sheet. -/

namespace Spreadsheet.CommandLine

/-- What a run of the program leaves behind. -/
structure Outcome where
  exitCode : Nat
  output : String
  errors : String
  deriving DecidableEq

/-- A cause under a heading: numbered if there are several, later lines as far in as the first. -/
def causeText (number : Option Nat) (cause : String) : String :=
  let (first, later) :=
    match number with
    | none => ("    ", "\n    ")
    | some number => ("    " ++ number.repr ++ ": ", "\n       ")
  first ++ later.intercalate ((Text.lines cause.toList).map String.ofList)

/-- The report of a failure. -/
def Failure.report (failure : Failure) : String :=
  let causes :=
    match failure.causes with
    | [] => ""
    | [cause] => "\n\nCaused by:\n" ++ causeText none cause
    | causes => "\n\nCaused by:\n" ++ "\n".intercalate
        (causes.zipIdx.map fun (cause, number) => causeText (some number) cause)
  "Error: " ++ failure.context ++ causes ++ "\n"

/-- A failure caused by a refusal of the sheet. -/
def Failure.ofSheet (context : String) (fault : SheetFault) : Failure :=
  ⟨context, [fault.message]⟩

/-- Prints what a formula shows when it stands at a place of a sheet. -/
def evalFormula (formula place : String) (maxReads : Nat) (sheet : Sheet) :
    Except Failure String := do
  let address ← (Sheet.addressOf place).mapError
    (.ofSheet ("Invalid cell address '" ++ place ++ "'"))
  let content := Formula.sigil.toString ++ Formula.source formula
  let sheet ← (sheet.setContent address content).mapError
    (.ofSheet ("Cell " ++ address.text ++ " is outside the grid"))
  let (sheet, _) := sheet.calculate maxReads
  let cell ← (sheet.cellAt address).mapError fun fault => ⟨fault.message, []⟩
  return cell.display ++ "\n"

/-- Prints the tokens of a formula, a line each, and the first fault after them. -/
def printTokens (formula : String) : String :=
  let (tokens, fault) := Formula.scan (Formula.source formula)
  let lines := tokens.map fun token => token.kind.name ++ "\t" ++ token.lexeme ++ "\n"
  String.join lines ++ fault.elim "" fun fault => "error\t#" ++ fault.code ++ "\n"

/-- Prints the expression that a formula is. -/
def printExpr (formula : String) : Except Failure String :=
  match Formula.parse formula with
  | .ok expr => .ok (expr.text ++ "\n")
  | .error fault =>
    .error ⟨"Failed to parse '" ++ formula ++ "'", [fault.message, fault.detail]⟩

/-- Recalculates a sheet and prints what its cells show, a line each. -/
def runSheet (maxReads : Nat) (sheet : Sheet) : String :=
  let (sheet, _) := sheet.calculate maxReads
  String.join (sheet.nonEmptyCells.map fun (address, cell) =>
    address.text ++ "\t" ++ cell.display ++ "\n")

/-- Enters a file into a sheet, given what reading it gives. -/
def loadFile (read : String → Except String String) (sheet : Sheet) (path : String) :
    Except Failure Sheet :=
  match read path with
  | .ok text => loadText path text sheet
  | .error cause => .error ⟨"Failed to read '" ++ path ++ "'", [cause]⟩

/-- Does what is asked for, reading files as told. -/
def Request.perform (request : Request) (read : String → Except String String) :
    Except Failure String := do
  match request.command with
  | .eval formula place assignments =>
    let sheet ← assignAll assignments (Sheet.ofSize request.rows request.cols)
    evalFormula formula place request.maxReads sheet
  | .tokens formula => return printTokens formula
  | .ast formula => printExpr formula
  | .run file assignments =>
    let sheet := Sheet.ofSize request.rows request.cols
    let sheet ← file.elim (.ok sheet) (loadFile read sheet)
    let sheet ← assignAll assignments sheet
    return runSheet request.maxReads sheet

/-- The file that some arguments ask to be read. -/
def fileToRead (args : List String) : Option String :=
  match readArguments args with
  | .ok ⟨.run file _, _, _, _⟩ => file
  | _ => none

/-- Runs the program on its arguments, reading files as told. -/
def outcome (args : List String) (read : String → Except String String) : Outcome :=
  match readArguments args with
  | .error .information => ⟨0, "", ""⟩
  | .error .usage => ⟨2, "", ""⟩
  | .ok request =>
    match request.perform read with
    | .ok output => ⟨0, output, ""⟩
    | .error failure => ⟨1, "", failure.report⟩

end Spreadsheet.CommandLine
