import Spreadsheet.Value

/-! Expressions, and their prefix form. -/

namespace Spreadsheet.Formula

/-- The operators between two operands. -/
inductive BinaryOp where
  | add
  | subtract
  | multiply
  | divide
  | equal
  | notEqual
  | less
  | lessEqual
  | greater
  | greaterEqual
  deriving DecidableEq

/-- An operator as formulas write it. -/
def BinaryOp.symbol : BinaryOp → String
  | .add => "+"
  | .subtract => "-"
  | .multiply => "*"
  | .divide => "/"
  | .equal => "="
  | .notEqual => "!="
  | .less => "<"
  | .lessEqual => "<="
  | .greater => ">"
  | .greaterEqual => ">="

/-- How loosely an operator binds: one for the tightest operators, four for the loosest. -/
def BinaryOp.looseness : BinaryOp → Nat
  | .multiply | .divide => 1
  | .add | .subtract => 2
  | .less | .lessEqual | .greater | .greaterEqual => 3
  | .equal | .notEqual => 4

/-- An expression; references keep the text they were written with. -/
inductive Expr where
  | literal (value : Value)
  | cell (text : String)
  | range (first last : String)
  | binary (op : BinaryOp) (left right : Expr)
  | negation (operand : Expr)
  | group (inner : Expr)
  | call (name : String) (args : List Expr)

namespace Expr

/-- The prefix form of a literal: text stands in quotes as it is. -/
def literalText : Value → String
  | .text content => "\"" ++ content ++ "\""
  | value => value.written

mutual

/-- An expression in prefix form. -/
def text : Expr → String
  | .literal value => literalText value
  | .cell text => text
  | .range first last => first ++ ".." ++ last
  | .binary op left right => "(" ++ op.symbol ++ " " ++ left.text ++ " " ++ right.text ++ ")"
  | .negation operand => "(! " ++ operand.text ++ ")"
  | .group inner => "(group " ++ inner.text ++ ")"
  | .call name args => "(" ++ name ++ argsText args ++ ")"

/-- Arguments in prefix form, a space before each. -/
def argsText : List Expr → String
  | [] => ""
  | arg :: rest => " " ++ arg.text ++ argsText rest

end

end Expr

end Spreadsheet.Formula
