import Spreadsheet.Sheet.Basic

/-! Reading the arguments of the command line. -/

namespace Spreadsheet.CommandLine

/-- What is to be done. -/
inductive Command where
  | eval (formula : String) (place : String) (assignments : List String)
  | tokens (formula : String)
  | ast (formula : String)
  | run (file : Option String) (assignments : List String)
  deriving DecidableEq

/-- What is to be done, in a grid of which size and with which ceiling on reads. -/
structure Request where
  command : Command
  rows : UInt32
  cols : UInt32
  maxReads : Nat
  deriving DecidableEq

/-- Why nothing is to be done: the arguments are wrong, or they ask for help or for the version. -/
inductive Refusal where
  | usage
  | information
  deriving DecidableEq

/-- The commands by name. -/
inductive CommandName where
  | eval
  | tokens
  | ast
  | run
  deriving DecidableEq

/-- The command of a name. -/
def CommandName.ofText? (text : String) : Option CommandName :=
  if text = "eval" then some .eval
  else if text = "tokens" then some .tokens
  else if text = "ast" then some .ast
  else if text = "run" then some .run
  else none

/-- The options. -/
inductive Switch where
  | rows
  | cols
  | maxDepth
  | verbose
  | help
  | version
  | place
  | assignment
  deriving DecidableEq

/-- Whether an option takes a value. -/
def Switch.takesValue : Switch → Bool
  | .rows | .cols | .maxDepth | .place | .assignment => true
  | .verbose | .help | .version => false

/-- Whether an option may be given before a command (`none`) or after it. -/
def Switch.allowed (command : Option CommandName) : Switch → Bool
  | .rows | .cols | .maxDepth | .verbose | .help => true
  | .version => command == none
  | .place => command == some .eval
  | .assignment => command == some .eval || command == some .run

/-- The option of a long name. -/
def Switch.ofLongName? (command : Option CommandName) (name : String) : Option Switch :=
  let found :=
    if name = "rows" then some Switch.rows
    else if name = "cols" then some .cols
    else if name = "max-depth" then some .maxDepth
    else if name = "verbose" then some .verbose
    else if name = "help" then some .help
    else if name = "version" then some .version
    else if name = "at" then some .place
    else if name = "cell" then some .assignment
    else none
  found.filter (Switch.allowed command)

/-- The option of a letter. -/
def Switch.ofLetter? (command : Option CommandName) (letter : Char) : Option Switch :=
  let found :=
    if letter = 'v' then some Switch.verbose
    else if letter = 'h' then some .help
    else if letter = 'V' then some .version
    else if letter = 'c' then some .assignment
    else none
  found.filter (Switch.allowed command)

/-- What has been given so far, before a command or after it. -/
structure Given where
  rows : Option UInt32
  cols : Option UInt32
  maxDepth : Option Nat
  verbose : Bool
  place : Option String
  assignments : List String
  operand : Option String

/-- Nothing given. -/
def Given.nothing : Given := ⟨none, none, none, false, none, [], none⟩

/-- Reads a count below a limit; a sign may stand before it, and a minus only before nought. -/
def readCount (limit : Nat) (mayBeNegative : Bool) (text : String) : Except Refusal Nat :=
  let (negative, digits) :=
    match text.toList with
    | '-' :: digits => (true, digits)
    | '+' :: digits => (false, digits)
    | digits => (false, digits)
  let count := Nat.ofDigitChars 10 digits 0
  if digits.isEmpty || !digits.all Char.isDigit || limit ≤ count then .error .usage
  else if negative && !(mayBeNegative && count == 0) then .error .usage
  else .ok count

/-- Fills in what must be given at most once. -/
def once {α : Type} (given : Option α) (value : α) : Except Refusal (Option α) :=
  if given.isSome then .error .usage else .ok (some value)

namespace Given

/-- Gives an option a value. -/
def setValue (given : Given) (value : String) : Switch → Except Refusal Given
  | .rows => do
    let count ← readCount UInt32.size true value
    return { given with rows := ← once given.rows (UInt32.ofNat count) }
  | .cols => do
    let count ← readCount UInt32.size true value
    return { given with cols := ← once given.cols (UInt32.ofNat count) }
  | .maxDepth => do
    let count ← readCount UInt64.size false value
    return { given with maxDepth := ← once given.maxDepth count }
  | .place => return { given with place := ← once given.place value }
  | .assignment => return { given with assignments := given.assignments ++ [value] }
  | .verbose | .help | .version => .error .usage

/-- Gives an option that takes no value. -/
def setFlag (given : Given) : Switch → Except Refusal Given
  | .verbose => if given.verbose then .error .usage else .ok { given with verbose := true }
  | .help | .version => .error .information
  | _ => .error .usage

/-- Reads letters after a dash: each is an option, and one that takes a value takes the rest of
them, an equals sign dropped, or waits for the next argument. -/
def setLetters (command : Option CommandName) : List Char → Given →
    Except Refusal (Given × Option Switch)
  | [], given => .ok (given, none)
  | letter :: rest, given =>
    match Switch.ofLetter? command letter with
    | none => .error .usage
    | some switch =>
      if switch.takesValue then
        match rest with
        | [] => .ok (given, some switch)
        | '=' :: value => do return (← given.setValue (String.ofList value) switch, none)
        | value => do return (← given.setValue (String.ofList value) switch, none)
      else do
        let given ← given.setFlag switch
        setLetters command rest given

/-- Reads an argument after two dashes: a name, and perhaps an equals sign and a value. -/
def setLong (command : Option CommandName) (text : List Char) (given : Given) :
    Except Refusal (Given × Option Switch) :=
  let (name, value) :=
    match Text.cutAt? (· == '=') text with
    | some (name, value) => (name, some (String.ofList value))
    | none => (text, none)
  match Switch.ofLongName? command (String.ofList name), value with
  | none, _ => .error .usage
  | some switch, some value =>
    if switch.takesValue then do return (← given.setValue value switch, none) else .error .usage
  | some switch, none =>
    if switch.takesValue then .ok (given, some switch)
    else do return (← given.setFlag switch, none)

/-- Gives the operand of a command. -/
def setOperand (command : CommandName) (given : Given) (value : String) : Except Refusal Given :=
  -- A file has a name.
  if command = .run ∧ value.isEmpty then .error .usage
  else do return { given with operand := ← once given.operand value }

end Given

/-- Whether an argument is an option and not a value. -/
def isOption (arg : String) : Bool :=
  arg.toList.head? == some '-' && arg != "-"

/-- Reads an option; it may leave another argument to be its value. -/
def readOption (command : Option CommandName) (arg : String) (given : Given) :
    Except Refusal (Given × Option Switch) :=
  match arg.toList with
  | '-' :: '-' :: name => given.setLong command name
  | '-' :: letters => given.setLetters command letters
  | _ => .error .usage

/-- Reads the arguments after a command; `waiting` is an option that still lacks its value. -/
def readAfter (command : CommandName) :
    Option Switch → Given → List String → Except Refusal Given
  | none, given, [] => .ok given
  | some _, _, [] => .error .usage
  | some switch, given, arg :: rest =>
    if isOption arg then .error .usage
    else do
      let given ← given.setValue arg switch
      readAfter command none given rest
  | none, given, arg :: rest =>
    -- After two dashes alone nothing is an option.
    if arg = "--" then rest.foldlM (Given.setOperand command) given
    else if isOption arg then do
      let (given, waiting) ← readOption (some command) arg given
      readAfter command waiting given rest
    else do
      let given ← given.setOperand command arg
      readAfter command none given rest

/-- What must be given. -/
def required {α : Type} (given : Option α) : Except Refusal α :=
  given.elim (.error .usage) .ok

/-- The command that a name and what was given after it make; only a file may be left out. -/
def Command.ofGiven (given : Given) : CommandName → Except Refusal Command
  | .eval => (required given.operand).map fun formula =>
    .eval formula (given.place.getD "A1") given.assignments
  | .tokens => (required given.operand).map .tokens
  | .ast => (required given.operand).map .ast
  | .run => .ok (.run given.operand given.assignments)

/-- What is to be done, from what was given before a command and after it; the latter prevails. -/
def Request.ofGiven (name : CommandName) (before after : Given) : Except Refusal Request := do
  let command ← Command.ofGiven after name
  return {
    command
    rows := (after.rows.or before.rows).getD Sheet.defaultRows
    cols := (after.cols.or before.cols).getD Sheet.defaultCols
    maxReads := (after.maxDepth.or before.maxDepth).getD Formula.defaultMaxReads }

/-- Reads arguments up to the command, and then those after it. -/
def readBefore : Option Switch → Given → List String → Except Refusal Request
  | _, _, [] => .error .usage
  | some switch, given, arg :: rest =>
    if isOption arg then .error .usage
    else do
      let given ← given.setValue arg switch
      readBefore none given rest
  | none, given, arg :: rest =>
    if arg = "--" then .error .usage
    else if isOption arg then do
      let (given, waiting) ← readOption none arg given
      readBefore waiting given rest
    else if arg = "help" then
      -- Help is for the program, or for one of its commands.
      match rest with
      | [] => .error .information
      | [name] =>
        if (CommandName.ofText? name).isSome || name == "help" then .error .information
        else .error .usage
      | _ => .error .usage
    else
      match CommandName.ofText? arg with
      | none => .error .usage
      | some command => do Request.ofGiven command given (← readAfter command none .nothing rest)

/-- What some arguments ask for. -/
def readArguments (args : List String) : Except Refusal Request :=
  readBefore none .nothing args

end Spreadsheet.CommandLine
