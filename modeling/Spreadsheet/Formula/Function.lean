import Spreadsheet.Formula.Reading
import Spreadsheet.Text.Shown
import Spreadsheet.Value

/-! The functions a formula can call, and tables of them by name. -/

namespace Spreadsheet.Formula

/-- How many arguments a function takes. -/
inductive Arity where
  | exactly (count : Nat)
  | atLeast (least : Nat)
  | between (least most : Nat)
  deriving DecidableEq

/-- Whether a function takes this many arguments. -/
def Arity.admits : Arity → Nat → Bool
  | .exactly wanted, count => count == wanted
  | .atLeast least, count => least ≤ count
  | .between least most, count => least ≤ count && count ≤ most

/-- An arity written out. -/
def Arity.describe : Arity → String
  | .exactly count => "Exactly(" ++ count.repr ++ ")"
  | .atLeast least => "AtLeast(" ++ least.repr ++ ")"
  | .between least most => "Between(" ++ least.repr ++ ", " ++ most.repr ++ ")"

/-- A function: its body runs on values already computed, and may read cells by address. -/
structure Function where
  name : String
  arity : Arity
  accepts : List Value → Bool
  body : Address → List Value → Reading Address (Except EvalFault Value)

namespace Function

/-- Calls a function for a cell's formula: the count of arguments is checked, then their types. -/
def call (function : Function) (self : Address) (args : List Value) :
    Reading Address (Except EvalFault Value) :=
  if !function.arity.admits args.length then .done (.error .wrongArgumentCount)
  else if !function.accepts args then .done (.error .wrongType)
  else function.body self args

/-- A function written out, its body left out. -/
def describe (function : Function) : String :=
  "FunctionDef \x7b name: " ++ Text.quoted function.name ++ ", arity: " ++
    function.arity.describe ++ " \x7d"

end Function

/-- A table of functions, each name standing for one of them. -/
structure Registry where
  functions : List Function

namespace Registry

/-- The table of no functions. -/
def empty : Registry := ⟨[]⟩

/-- The function of a name. -/
def find? (registry : Registry) (name : String) : Option Function :=
  registry.functions.find? fun function => function.name == name

/-- Enters a function, in place of any other of its name. -/
def insert (registry : Registry) (function : Function) : Registry :=
  ⟨function :: registry.functions.filter fun other => other.name != function.name⟩

/-- Whether a name stands for a function. -/
def contains (registry : Registry) (name : String) : Bool :=
  (registry.find? name).isSome

/-- The names of the functions, in alphabetical order. -/
def names (registry : Registry) : List String :=
  (registry.functions.map Function.name).mergeSort fun left right => decide (left ≤ right)

/-- How many functions there are. -/
def size (registry : Registry) : Nat :=
  registry.functions.length

/-- Whether there are no functions. -/
def isEmpty (registry : Registry) : Bool :=
  registry.functions.isEmpty

end Registry

end Spreadsheet.Formula
