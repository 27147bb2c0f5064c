/-! What can go wrong with a formula, and the marker a sheet shows for it. -/

namespace Spreadsheet.Formula

/-- Why a text cannot be cut into tokens. -/
inductive ScanFault where
  | strayCharacter
  | malformedNumber
  | malformedCell
  deriving DecidableEq

/-- Why tokens are not an expression. -/
inductive ParseFault where
  | unexpectedToken
  | missingParen
  | tooDeep
  deriving DecidableEq

/-- Why an expression has no value. -/
inductive EvalFault where
  | incompatibleOperands
  | wrongType
  | unknownFunction
  | outsideGrid
  | ownCell
  | circular
  | wrongArgumentCount
  deriving DecidableEq

/-- Why a formula has no value, by the stage that refused it. -/
inductive Fault where
  | scan (fault : ScanFault)
  | parse (fault : ParseFault)
  | eval (fault : EvalFault)
  deriving DecidableEq

/-- The short code of a scanning fault. -/
def ScanFault.code : ScanFault → String
  | .strayCharacter => "INV_CHAR"
  | .malformedNumber => "INV_NUM"
  | .malformedCell => "INV_CELL"

/-- The wording of a scanning fault. -/
def ScanFault.message : ScanFault → String
  | .strayCharacter => "unrecognized character"
  | .malformedNumber => "malformed numeric literal"
  | .malformedCell => "malformed cell reference"

/-- The short code of a parsing fault. -/
def ParseFault.code : ParseFault → String
  | .unexpectedToken => "UNX_TOKEN"
  | .missingParen => "NO_PAREN"
  | .tooDeep => "TOO_DEEP"

/-- The wording of a parsing fault. -/
def ParseFault.message : ParseFault → String
  | .unexpectedToken => "unexpected token"
  | .missingParen => "missing closing parenthesis"
  | .tooDeep => "expression nested too deeply"

/-- The short code of an evaluation fault. -/
def EvalFault.code : EvalFault → String
  | .incompatibleOperands => "INV_OP"
  | .wrongType => "INV_TYPE"
  | .unknownFunction => "INV_FUNC"
  | .outsideGrid => "INV_CELL"
  | .ownCell => "SELF_REF"
  | .circular => "CIRC_REF"
  | .wrongArgumentCount => "INV_ARGS"

/-- The wording of an evaluation fault. -/
def EvalFault.message : EvalFault → String
  | .incompatibleOperands => "operator applied to incompatible types"
  | .wrongType => "value has the wrong type"
  | .unknownFunction => "unknown function"
  | .outsideGrid => "reference outside the grid"
  | .ownCell => "formula references its own cell"
  | .circular => "circular reference"
  | .wrongArgumentCount => "wrong number of arguments"

namespace Fault

/-- The short code of a fault, that of its stage. -/
def code : Fault → String
  | .scan fault => fault.code
  | .parse fault => fault.code
  | .eval fault => fault.code

/-- The wording of a fault without its stage. -/
def detail : Fault → String
  | .scan fault => fault.message
  | .parse fault => fault.message
  | .eval fault => fault.message

/-- The wording of a fault, its stage first. -/
def message : Fault → String
  | .scan fault => "tokenize error: " ++ fault.message
  | .parse fault => "parse error: " ++ fault.message
  | .eval fault => "evaluation error: " ++ fault.message

/-- What a sheet shows for a fault: a hash for a malformed text, a star for a failed evaluation. -/
def marker : Fault → String
  | .scan fault => "#" ++ fault.code
  | .parse fault => "#" ++ fault.code
  | .eval fault => "*" ++ fault.code

end Fault

/-- What every cell on a cycle of references shows. -/
def circularMarker : String := (Fault.eval .circular).marker

end Spreadsheet.Formula
