import Spreadsheet.Formula.Function

/-! The built-in functions. -/

namespace Spreadsheet.Formula.Builtin

/-- Chooses between two values that have both been computed. -/
def choose : List Value → Except EvalFault Value
  | .boolean truth :: whenTrue :: whenFalse :: _ => .ok (if truth then whenTrue else whenFalse)
  | .boolean _ :: _ => .error .wrongArgumentCount
  | _ => .error .wrongType

/-- Adds up the next so many cells of a range; an empty text is skipped, others must be numbers. -/
def sumFrom (range : Range) : Nat → Address → Float → Reading Address (Except EvalFault Value)
  | 0, _, total => .done (.ok (.number total))
  | count + 1, address, total => .ask address fun answer =>
    match answer with
    | .error fault => .done (.error fault)
    | .ok text =>
      match Number.parse text with
      | some number => sumFrom range count (range.after address) (total + number)
      | none =>
        if text.isEmpty then sumFrom range count (range.after address) total
        else .done (.error .wrongType)

/-- Adds up the cells of a range, row by row, and stops at the first that cannot be added. -/
def sum : List Value → Reading Address (Except EvalFault Value)
  | .range range :: _ => sumFrom range range.count range.first 0.0
  | _ => .done (.error .wrongType)

/-- The function `if`: its first argument is a truth value. -/
def ifFunction : Function where
  name := "if"
  arity := .exactly 3
  accepts args := (args.head?.bind Value.boolean?).isSome
  body _ args := .done (choose args)

/-- The function `sum`: its argument is a range. -/
def sumFunction : Function where
  name := "sum"
  arity := .exactly 1
  accepts args := (args.head?.bind Value.range?).isSome
  body _ args := sum args

/-- The table of the built-in functions. -/
def registry : Registry :=
  (Registry.empty.insert ifFunction).insert sumFunction

end Spreadsheet.Formula.Builtin
