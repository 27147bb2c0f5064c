import Spreadsheet.Decimal.Numeral
import Spreadsheet.Formula.Fault
import Spreadsheet.Formula.Token

/-! Scanning a formula's text into tokens, left to right with one character of foresight. -/

namespace Spreadsheet.Formula

/-- What stands at one place of a formula's text. -/
inductive Piece where
  | token (token : Token)
  | fault (fault : ScanFault)
  | blank
  deriving DecidableEq

/-- The operators of two characters. -/
def pairKind? : Char → Char → Option TokenKind
  | '>', '=' => some .greaterEqual
  | '<', '=' => some .lessEqual
  | '!', '=' => some .notEqual
  | '.', '.' => some .dotDot
  | _, _ => none

/-- The operators of one character. -/
def singleKind? : Char → Option TokenKind
  | '+' => some .plus
  | '-' => some .minus
  | '*' => some .asterisk
  | '/' => some .slash
  | '>' => some .greater
  | '<' => some .less
  | '(' => some .parenLeft
  | ')' => some .parenRight
  | '=' => some .equal
  | ',' => some .comma
  | '!' => some .exclamation
  | _ => none

/-- The kind of a word: two words in two spellings each are truth values. -/
def wordKind (word : List Char) : TokenKind :=
  if word = "True".toList ∨ word = "true".toList then .trueWord
  else if word = "False".toList ∨ word = "false".toList then .falseWord
  else .identifier

/-- Whether a character separates tokens. -/
def separates (char : Char) : Bool :=
  char == ' ' || char == '\t' || char == '\r' || char == '\n'

/-- The characters a number goes on with. -/
def continuesNumber (char : Char) : Bool :=
  char.isDigit || char == '.'

/-- The characters a word goes on with. -/
def continuesWord (char : Char) : Bool :=
  char.isLower || char.isDigit

/-- Scans a string whose opening quote has been read; the end of the text closes it, too. -/
def scanString (rest : List Char) : Piece × List Char :=
  let body := rest.takeWhile (· != '"')
  let close := (rest.dropWhile (· != '"')).take 1
  let literal := some (Literal.text (String.ofList body))
  (.token ⟨.string, String.ofList ('"' :: body ++ close), literal⟩,
    (rest.dropWhile (· != '"')).drop 1)

/-- Scans a number from its first character. -/
def scanNumber (first : Char) (rest : List Char) : Piece × List Char :=
  let run := first :: rest.takeWhile continuesNumber
  let after := rest.dropWhile continuesNumber
  match Decimal.readNumber run with
  | some number => (.token ⟨.number, String.ofList run, some (.number number)⟩, after)
  | none => (.fault .malformedNumber, after)

/-- Scans a cell from its first letter; letters without a row number are dropped. -/
def scanCell (first : Char) (rest : List Char) : Piece × List Char :=
  let letters := first :: rest.takeWhile Char.isUpper
  let after := rest.dropWhile Char.isUpper
  let digits := after.takeWhile Char.isDigit
  if digits.isEmpty then (.fault .malformedCell, after)
  else (.token (.plain .cell (letters ++ digits)), after.dropWhile Char.isDigit)

/-- Scans a word from its first letter. -/
def scanWord (first : Char) (rest : List Char) : Piece × List Char :=
  let word := first :: rest.takeWhile continuesWord
  (.token (.plain (wordKind word) word), rest.dropWhile continuesWord)

/-- Scans an operator, a separator or a stray character. -/
def scanMark (first : Char) (rest : List Char) : Piece × List Char :=
  match rest.head?.bind (pairKind? first) with
  | some kind => (.token (.plain kind (first :: rest.take 1)), rest.drop 1)
  | none =>
    match singleKind? first with
    | some kind => (.token (.plain kind [first]), rest)
    | none => (if separates first then .blank else .fault .strayCharacter, rest)

/-- Whether a cell starts here: a capital at the end of the text or before a capital or a digit. -/
def startsCell (first : Char) (rest : List Char) : Bool :=
  first.isUpper && rest.head?.all fun next => next.isUpper || next.isDigit

/-- Whether a number starts here: a digit, or a dot that no dot follows. -/
def startsNumber (first : Char) (rest : List Char) : Bool :=
  first.isDigit || (first == '.' && rest.head? != some '.')

/-- Scans one piece, and gives the text after it. -/
def scanPiece (first : Char) (rest : List Char) : Piece × List Char :=
  if first = '"' then scanString rest
  else if startsNumber first rest then scanNumber first rest
  else if startsCell first rest then scanCell first rest
  else if first.isAlpha then scanWord first rest
  else scanMark first rest

/-- Dropping a run of characters leaves no more than there was. -/
theorem length_dropWhile_le (goesOn : Char → Bool) (text : List Char) :
    (text.dropWhile goesOn).length ≤ text.length := by
  -- What is left is a suffix of the text.
  exact (List.dropWhile_suffix goesOn).length_le

/-- A piece takes at least its first character. -/
theorem length_scanPiece_le (first : Char) (rest : List Char) :
    (scanPiece first rest).2.length ≤ rest.length := by
  -- Every scan drops runs from the text after the first character.
  unfold scanPiece
  split
  · simp only [scanString, List.length_drop]
    exact Nat.le_trans (Nat.sub_le _ _) (length_dropWhile_le _ _)
  split
  · simp only [scanNumber]
    split <;> exact length_dropWhile_le _ _
  split
  · simp only [scanCell]
    split
    · exact length_dropWhile_le _ _
    · exact Nat.le_trans (length_dropWhile_le _ _) (length_dropWhile_le _ _)
  split
  · exact length_dropWhile_le _ _
  · simp only [scanMark]
    split
    · simp
    · split <;> exact Nat.le_refl _

/-- The pieces of a text, in order. -/
def pieces : List Char → List Piece
  | [] => []
  | first :: rest => (scanPiece first rest).1 :: pieces (scanPiece first rest).2
  termination_by text => text.length
  decreasing_by exact Nat.lt_succ_of_le (length_scanPiece_le first rest)

/-- The token of a piece, if it is one. -/
def Piece.token? : Piece → Option Token
  | .token formed => some formed
  | _ => none

/-- The fault of a piece, if it is one. -/
def Piece.fault? : Piece → Option ScanFault
  | .fault cause => some cause
  | _ => none

/-- Scans a text to its end: all tokens that could be formed, and the first fault if any. -/
def scan (text : String) : List Token × Option ScanFault :=
  let found := pieces text.toList
  (found.filterMap Piece.token? ++ [Token.endOfText], found.findSome? Piece.fault?)

/-- The tokens of a text that has no fault. -/
def tokenize (text : String) : Except ScanFault (List Token) :=
  match scan text with
  | (tokens, none) => .ok tokens
  | (_, some fault) => .error fault

end Spreadsheet.Formula
