import Spreadsheet.Formula.Expr
import Spreadsheet.Formula.Token

/-! The grammar of formulas: four layers of operators, each grouping to the right, over negations
and primaries; nesting is bounded, and only what is nested to the right or in brackets counts. -/

namespace Spreadsheet.Formula

/-- Reads something from the start of a list of tokens, and gives the tokens after it. -/
abbrev Parser (α : Type) := List Token → Except ParseFault (α × List Token)

/-- The deepest nesting of an expression. -/
def maxNesting : Nat := 256

/-- The operator that a token kind stands for between operands. -/
def BinaryOp.ofKind? : TokenKind → Option BinaryOp
  | .plus => some .add
  | .minus => some .subtract
  | .asterisk => some .multiply
  | .slash => some .divide
  | .equal => some .equal
  | .notEqual => some .notEqual
  | .less => some .less
  | .lessEqual => some .lessEqual
  | .greater => some .greater
  | .greaterEqual => some .greaterEqual
  | _ => none

/-- The kind of the next token; past the last one the text is at its end. -/
def nextKind : List Token → TokenKind
  | [] => .endOfText
  | token :: _ => token.kind

/-- The operator of a layer at the start of some tokens. -/
def operatorAt? (looseness : Nat) (tokens : List Token) : Option BinaryOp :=
  (BinaryOp.ofKind? (nextKind tokens)).filter fun op => op.looseness == looseness

/-- Drops a token of the wanted kind, or fails as told. -/
def expect (kind : TokenKind) (fault : ParseFault) (tokens : List Token) :
    Except ParseFault (List Token) :=
  if nextKind tokens = kind then .ok (tokens.drop 1) else .error fault

/-- The value that a number or a string token stands for. -/
def literalValue (token : Token) : Except ParseFault Value :=
  match token.literal? with
  | some (.number number) => .ok (.number number)
  | some (.text text) => .ok (.text text)
  | none => .error .unexpectedToken

/-- Reads what follows a cell: the end of a range if two dots come next, and else nothing. -/
def afterCell (first : String) : Parser Expr := fun tokens =>
  if nextKind tokens = .dotDot then
    match tokens.drop 1 with
    | last :: rest =>
      if last.kind = .cell then .ok (.range first last.lexeme, rest) else .error .unexpectedToken
    | [] => .error .unexpectedToken
  else .ok (.cell first, tokens)

/-- Reads one argument or more with commas between them; there are no more of them than tokens. -/
def argumentList (argument : Parser Expr) : Nat → Parser (List Expr)
  | 0, _ => .error .unexpectedToken
  | bound + 1, tokens => do
    let (arg, rest) ← argument tokens
    if nextKind rest = .comma then
      let (args, rest) ← argumentList argument bound (rest.drop 1)
      return (arg :: args, rest)
    else return ([arg], rest)

/-- Reads the bracketed arguments of a call. -/
def callArguments (argument : Parser Expr) : Parser (List Expr) := fun tokens => do
  let tokens ← expect .parenLeft .unexpectedToken tokens
  if nextKind tokens = .parenRight then return ([], tokens.drop 1)
  else
    let (args, rest) ← argumentList argument (tokens.length + 1) tokens
    let rest ← expect .parenRight .missingParen rest
    return (args, rest)

/-- Reads a primary: a literal, a reference, a group or a call; what it holds is a level deeper. -/
def primary (deeper : Parser Expr) : Parser Expr
  | [] => .error .unexpectedToken
  | token :: rest =>
    match token.kind with
    | .number | .string => do return (.literal (← literalValue token), rest)
    | .trueWord => .ok (.literal (.boolean true), rest)
    | .falseWord => .ok (.literal (.boolean false), rest)
    | .cell => afterCell token.lexeme rest
    | .parenLeft => do
      let (inner, rest) ← deeper rest
      let rest ← expect .parenRight .missingParen rest
      return (.group inner, rest)
    | .identifier => do
      let (args, rest) ← callArguments deeper rest
      return (.call token.lexeme args, rest)
    | _ => .error .unexpectedToken

/-- The looseness of a whole expression, that of its loosest operators. -/
def loosest : Nat := 4

/-- Reads an expression of operators no looser than told, given how to read a level deeper. -/
def layer (deeper : Nat → Parser Expr) : Nat → Parser Expr
  | 0 => fun tokens =>
    -- Below all layers stands a negation or a primary.
    if nextKind tokens = .exclamation then do
      let (operand, rest) ← deeper 0 (tokens.drop 1)
      return (.negation operand, rest)
    else primary (deeper loosest) tokens
  | looseness + 1 => fun tokens => do
    let (left, rest) ← layer deeper looseness tokens
    match operatorAt? (looseness + 1) rest with
    | none => return (left, rest)
    | some op =>
      -- The right operand is of the same layer, so equal operators group to the right.
      let (right, rest) ← deeper (looseness + 1) (rest.drop 1)
      return (.binary op left right, rest)

/-- Reads an expression of a layer with room for fewer than so many levels of nesting. -/
def nested : Nat → Nat → Parser Expr
  | 0, _ => fun _ => .error .tooDeep
  | room + 1, looseness => layer (nested room) looseness

/-- The expression that some tokens are, up to the end of the text. -/
def parseTokens (tokens : List Token) : Except ParseFault Expr := do
  let (expr, rest) ← nested (maxNesting + 1) loosest tokens
  if nextKind rest = .endOfText then return expr else throw .unexpectedToken

end Spreadsheet.Formula
