import Spreadsheet.Decimal.Shortest
import Spreadsheet.Text.Shown

/-! The tokens of a formula. -/

namespace Spreadsheet.Formula

/-- The kinds of tokens. -/
inductive TokenKind where
  | number
  | string
  | trueWord
  | falseWord
  | cell
  | identifier
  | plus
  | minus
  | asterisk
  | slash
  | exclamation
  | greater
  | less
  | greaterEqual
  | lessEqual
  | equal
  | notEqual
  | dotDot
  | comma
  | parenLeft
  | parenRight
  | endOfText
  deriving DecidableEq

/-- The name of a token kind. -/
def TokenKind.name : TokenKind → String
  | .number => "Number"
  | .string => "String"
  | .trueWord => "True"
  | .falseWord => "False"
  | .cell => "Cell"
  | .identifier => "Identifier"
  | .plus => "Plus"
  | .minus => "Minus"
  | .asterisk => "Asterisk"
  | .slash => "Slash"
  | .exclamation => "Exclamation"
  | .greater => "Greater"
  | .less => "Less"
  | .greaterEqual => "GreaterEqual"
  | .lessEqual => "LessEqual"
  | .equal => "Equal"
  | .notEqual => "NotEqual"
  | .dotDot => "DotDot"
  | .comma => "Comma"
  | .parenLeft => "ParenLeft"
  | .parenRight => "ParenRight"
  | .endOfText => "Eof"

/-- What a number or a string token stands for. -/
inductive Literal where
  | number (number : Float)
  | text (text : String)
  deriving DecidableEq

/-- A token: its kind, the text it was read from, and what that text stands for. -/
structure Token where
  kind : TokenKind
  lexeme : String
  literal? : Option Literal
  deriving DecidableEq

namespace Token

/-- A token that its lexeme says all about. -/
def plain (kind : TokenKind) (lexeme : List Char) : Token :=
  ⟨kind, String.ofList lexeme, none⟩

/-- The token that closes every scan. -/
def endOfText : Token := ⟨.endOfText, "", none⟩

/-- A token written out: its kind, and in brackets its quoted lexeme and what it stands for. -/
def describe (token : Token) : String :=
  let literal :=
    match token.literal? with
    | none => ""
    | some (.number number) => ", " ++ Decimal.Shortest.text number
    | some (.text text) => ", " ++ Text.quoted text
  token.kind.name ++ "(" ++ Text.quoted token.lexeme ++ literal ++ ")"

end Token

end Spreadsheet.Formula
