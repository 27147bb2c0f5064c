import Spreadsheet.Sheet.Basic
import Spreadsheet.Text.Cut

/-! Filling a sheet from a file of lines and from assignments. -/

namespace Spreadsheet.CommandLine

/-- Why a command failed, and what caused that, the nearest cause first. -/
structure Failure where
  context : String
  causes : List String
  deriving DecidableEq

/-- A line of a sheet file: nothing to do, or a cell and its content. -/
inductive SheetLine where
  | skipped
  | entry (address content : String)
  deriving DecidableEq

/-- Reads a line: blank lines and those starting with a hash are skipped; else the address ends at
the first space or tab, and blanks around the content are dropped. -/
def SheetLine.read (line : List Char) : SheetLine :=
  let line := Text.trimEnd line
  match Text.trimStart line with
  | [] => .skipped
  | '#' :: _ => .skipped
  | _ =>
    match Text.cutAt? (fun char => char == ' ' || char == '\t') line with
    | some (address, content) =>
      .entry (String.ofList address) (String.ofList (Text.trimStart content))
    | none => .entry (String.ofList line) ""

/-- Enters the lines of a file into a sheet, the first of them having a number. -/
def loadLines (path : String) : Nat → List (List Char) → Sheet → Except Failure Sheet
  | _, [], sheet => .ok sheet
  | number, line :: rest, sheet =>
    match SheetLine.read line with
    | .skipped => loadLines path (number + 1) rest sheet
    | .entry address content =>
      match sheet.setNamed address content with
      | .ok sheet => loadLines path (number + 1) rest sheet
      | .error fault =>
        let place := path ++ ":" ++ number.repr
        .error ⟨place ++ ": invalid cell '" ++ address ++ "'", [fault.message]⟩

/-- Enters the text of a file into a sheet, line by line; lines are counted from one. -/
def loadText (path text : String) (sheet : Sheet) : Except Failure Sheet :=
  loadLines path 1 (Text.lines text.toList) sheet

/-- Enters an assignment into a sheet: a cell, an equals sign and the content. -/
def assign (sheet : Sheet) (assignment : String) : Except Failure Sheet :=
  match Text.cutAt? (· == '=') assignment.toList with
  | none =>
    .error ⟨"Invalid cell assignment '" ++ assignment ++ "'. Expected ADDR=CONTENT format", []⟩
  | some (address, content) =>
    match sheet.setNamed (String.ofList (Text.trim address)) (String.ofList content) with
    | .ok sheet => .ok sheet
    | .error fault => .error ⟨"Invalid cell '" ++ String.ofList address ++ "'", [fault.message]⟩

/-- Enters assignments into a sheet, one after the other. -/
def assignAll (assignments : List String) (sheet : Sheet) : Except Failure Sheet :=
  assignments.foldlM assign sheet

end Spreadsheet.CommandLine
