import Spreadsheet.CommandLine

/-! The program: reads the file it is asked to read, and writes what the command line gives. -/

namespace Spreadsheet.CommandLine

/-- A system error in words and as a number, which may arrive negated. -/
def systemError (code : UInt32) (details : String) : String :=
  details.capitalize ++ " (os error " ++ (min code (0 - code)).toNat.repr ++ ")"

/-- The wording of a failure to read a file. -/
def readFailure : IO.Error → String
  | .noFileOrDirectory _ code details | .inappropriateType _ code details
  | .permissionDenied _ code details | .resourceExhausted _ code details
  | .invalidArgument _ code details => systemError code details
  | .userError _ => "stream did not contain valid UTF-8"
  | failure => toString failure

/-- Reads a file, or tells why it cannot be read. -/
def readText (path : String) : IO (Except String String) := do
  try
    return .ok (← IO.FS.readFile path)
  catch failure =>
    return .error (readFailure failure)

end Spreadsheet.CommandLine

open Spreadsheet

/-- Runs the command line on the program's arguments. -/
def main (args : List String) : IO UInt32 := do
  let text ← match CommandLine.fileToRead args with
    | some path => CommandLine.readText path
    | none => pure (.ok "")
  let outcome := CommandLine.outcome args fun _ => text
  IO.print outcome.output
  IO.eprint outcome.errors
  return UInt32.ofNat outcome.exitCode
