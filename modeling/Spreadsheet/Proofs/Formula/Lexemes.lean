import Mathlib.Data.List.TakeWhile
import Spreadsheet.Formula.Scan

/-! What a scanned text is made of: the lexemes of its tokens in order, each as its kind has them,
and separators around them. -/

namespace Spreadsheet.Formula

/-- What a token is written as that has one spelling only; the end of the text has no character. -/
def TokenKind.mark? : TokenKind → Option (List Char)
  | .plus => some ['+']
  | .minus => some ['-']
  | .asterisk => some ['*']
  | .slash => some ['/']
  | .exclamation => some ['!']
  | .greater => some ['>']
  | .less => some ['<']
  | .greaterEqual => some ['>', '=']
  | .lessEqual => some ['<', '=']
  | .equal => some ['=']
  | .notEqual => some ['!', '=']
  | .dotDot => some ['.', '.']
  | .comma => some [',']
  | .parenLeft => some ['(']
  | .parenRight => some [')']
  | .endOfText => some []
  | .number | .string | .trueWord | .falseWord | .cell | .identifier => none

/-- A letter followed by small letters and digits, where a capital is not followed by a digit. -/
def IsWord : List Char → Prop
  | [] => False
  | first :: rest => first.isAlpha = true ∧ (∀ char ∈ rest, (char.isLower || char.isDigit) = true) ∧
    (first.isUpper = true → ∀ second ∈ rest.head?, second.isLower = true)

/-- A quote, no quote, and a quote again. -/
def IsQuoted (lexeme : List Char) : Prop :=
  ∃ body, '"' ∉ body ∧ lexeme = '"' :: (body ++ ['"'])

/-- The lexemes of a kind of token, with what each of them stands for. -/
def TokenKind.Admits : TokenKind → List Char → Option Literal → Prop
  | .number, lexeme, literal => (∀ char ∈ lexeme, (char.isDigit || char == '.') = true) ∧
    ∃ x, Decimal.readNumber lexeme = some x ∧ literal = some (.number x)
  | .string, lexeme, literal => ∃ body, '"' ∉ body ∧
    (lexeme = '"' :: (body ++ ['"']) ∨ lexeme = '"' :: body) ∧
    literal = some (.text (String.ofList body))
  | .trueWord, lexeme, literal =>
    (lexeme = "True".toList ∨ lexeme = "true".toList) ∧ literal = none
  | .falseWord, lexeme, literal =>
    (lexeme = "False".toList ∨ lexeme = "false".toList) ∧ literal = none
  | .cell, lexeme, literal => (∃ letters digits, lexeme = letters ++ digits ∧
    letters ≠ [] ∧ (∀ char ∈ letters, char.isUpper = true) ∧
    digits ≠ [] ∧ (∀ char ∈ digits, char.isDigit = true)) ∧ literal = none
  | .identifier, lexeme, literal => IsWord lexeme ∧
    lexeme ∉ ["True".toList, "true".toList, "False".toList, "false".toList] ∧ literal = none
  | kind, lexeme, literal => kind.mark? = some lexeme ∧ literal = none

/-- A token has a lexeme of its kind, and stands for what that lexeme does. -/
def Token.Genuine (token : Token) : Prop :=
  token.kind.Admits token.lexeme.toList token.literal?

/-- A token that is no string without its closing quote. -/
def Token.Closed (token : Token) : Prop :=
  token.kind = .string → IsQuoted token.lexeme.toList

/-- A text is the lexemes of some tokens in order, with separators only before each of them. -/
def Spaced : List Token → List Char → Prop
  | [], text => text = []
  | token :: rest, text => ∃ gap after, (∀ char ∈ gap, char ∈ [' ', '\t', '\r', '\n']) ∧
    text = gap ++ token.lexeme.toList ++ after ∧ Spaced rest after

/-- Tokens cover a text: their lexemes and the separators around them are all of it, the last token
and no other is the end of the text, each lexeme is one of its kind, and only the string that stands
last may lack its closing quote. -/
structure Covers (tokens : List Token) (text : List Char) : Prop where
  spaced : Spaced tokens text
  ends : ∃ before, tokens = before ++ [Token.endOfText] ∧ ∀ token ∈ before, token.kind ≠ .endOfText
  genuine : ∀ token ∈ tokens, token.Genuine
  closed : ∀ before token after, tokens = before ++ token :: after → after ≠ [Token.endOfText] →
    token.Closed

/-- What a piece may take off a text, given what it leaves. -/
def Piece.Takes (taken after : List Char) : Piece → Prop
  | .token formed => formed.lexeme.toList = taken ∧ formed.kind ≠ .endOfText ∧ formed.Genuine ∧
    (after ≠ [] → formed.Closed)
  | .blank => ∃ char, taken = [char] ∧ char ∈ [' ', '\t', '\r', '\n']
  | .fault _ => True

/-- A piece and what it leaves are parts of a text. -/
def Parts (text : List Char) (scanned : Piece × List Char) : Prop :=
  ∃ taken, text = taken ++ scanned.2 ∧ scanned.1.Takes taken scanned.2

section Scanning

variable {first : Char} {rest : List Char}

/-- A kind with one spelling admits that spelling. -/
theorem TokenKind.admits_of_mark? {kind : TokenKind} {lexeme : List Char}
    (mark : kind.mark? = some lexeme) : kind.Admits lexeme none := by
  cases kind <;> cases mark <;> exact ⟨rfl, rfl⟩

/-- A token that is no string takes a lexeme of its kind, whatever it leaves. -/
theorem Piece.takes_lexeme {kind : TokenKind} {lexeme after : List Char} {literal : Option Literal}
    (admits : kind.Admits lexeme literal) (inside : kind ≠ .endOfText) (bare : kind ≠ .string) :
    (Piece.token ⟨kind, String.ofList lexeme, literal⟩).Takes lexeme after := by
  refine ⟨String.toList_ofList, inside, ?_, fun _ string => absurd string bare⟩
  show kind.Admits (String.ofList lexeme).toList literal
  rw [String.toList_ofList]
  exact admits

/-- A mark takes its spelling. -/
theorem Piece.takes_mark {kind : TokenKind} {lexeme after : List Char}
    (mark : kind.mark? = some lexeme) (more : lexeme ≠ []) :
    (Piece.token (.plain kind lexeme)).Takes lexeme after := by
  refine takes_lexeme (TokenKind.admits_of_mark? mark) ?_ ?_
  · rintro rfl
    exact more (Option.some.inj mark).symm
  · rintro rfl
    exact nomatch mark

/-- An operator of two characters is spelled with them. -/
theorem mark?_of_pairKind? {second : Char} {kind : TokenKind}
    (pair : pairKind? first second = some kind) : kind.mark? = some [first, second] := by
  unfold pairKind? at pair
  split at pair <;> cases pair <;> rfl

/-- An operator of one character is spelled with it. -/
theorem mark?_of_singleKind? {kind : TokenKind} (single : singleKind? first = some kind) :
    kind.mark? = some [first] := by
  unfold singleKind? at single
  split at single <;> cases single <;> rfl

/-- A string takes its quotes and what is between them; without the second one it takes all. -/
theorem parts_scanString (rest : List Char) : Parts ('"' :: rest) (scanString rest) := by
  have inside : '"' ∉ rest.takeWhile (· != '"') := fun member => by
    simpa using List.mem_takeWhile_imp member
  have split : rest.takeWhile (· != '"') ++ rest.dropWhile (· != '"') = rest :=
    List.takeWhile_append_dropWhile
  have stops := List.head?_dropWhile_not (· != '"') rest
  have kind : TokenKind.string ≠ .endOfText := by decide
  unfold scanString
  generalize rest.takeWhile (· != '"') = body at inside split
  -- What is left after the body is nothing, or it starts with the closing quote.
  cases left : rest.dropWhile (· != '"') with
  | nil =>
    rw [left, List.append_nil] at split
    refine ⟨'"' :: body, by simp [split], by simp, kind, ?_, fun more => absurd rfl more⟩
    exact ⟨body, inside, .inr (by simp), rfl⟩
  | cons quote after =>
    rw [left] at split stops
    obtain rfl : quote = '"' := by simpa using stops
    refine ⟨'"' :: (body ++ ['"']), by simp [← split], by simp, kind, ?_, fun _ _ => ?_⟩
    · exact ⟨body, inside, .inl (by simp), rfl⟩
    · exact ⟨body, inside, by simp⟩

/-- A number takes the run of digits and dots that it starts. -/
theorem parts_scanNumber (starts : startsNumber first rest = true) :
    Parts (first :: rest) (scanNumber first rest) := by
  have run : ∀ char ∈ first :: rest.takeWhile continuesNumber, continuesNumber char = true := by
    have here : continuesNumber first = true := by
      unfold startsNumber at starts
      unfold continuesNumber
      grind
    exact List.forall_mem_cons.mpr ⟨here, fun char => List.mem_takeWhile_imp⟩
  -- The run is taken whether or not it can be read as a number.
  refine ⟨first :: rest.takeWhile continuesNumber, ?_, ?_⟩
  · simp only [scanNumber]
    split <;> simp
  · simp only [scanNumber]
    split
    · rename_i x read
      exact Piece.takes_lexeme ⟨run, x, read, rfl⟩ (by decide) (by decide)
    · trivial

/-- A cell takes its letters and its digits, and a fault in place of one takes the letters. -/
theorem parts_scanCell (starts : startsCell first rest = true) :
    Parts (first :: rest) (scanCell first rest) := by
  have letters : ∀ char ∈ first :: rest.takeWhile Char.isUpper, char.isUpper = true :=
    List.forall_mem_cons.mpr
      ⟨(Bool.and_eq_true_iff.mp starts).1, fun char => List.mem_takeWhile_imp⟩
  -- Without digits behind its letters there is no cell, and the letters are the fault.
  simp only [scanCell]
  split
  · exact ⟨first :: rest.takeWhile Char.isUpper, by simp, trivial⟩
  · rename_i present
    have digits : ∀ char ∈ (rest.dropWhile Char.isUpper).takeWhile Char.isDigit,
        char.isDigit = true := fun char => List.mem_takeWhile_imp
    refine ⟨_, ?_, Piece.takes_lexeme
      ⟨⟨_, _, rfl, List.cons_ne_nil _ _, letters, ?_, digits⟩, rfl⟩ (by decide) (by decide)⟩
    · simp
    · simpa using present

/-- Where no cell starts, a letter and the small letters and digits after it are a word. -/
theorem isWord_run (letter : first.isAlpha = true) (other : startsCell first rest = false) :
    IsWord (first :: rest.takeWhile continuesWord) := by
  refine ⟨letter, fun char => List.mem_takeWhile_imp, fun capital second next => ?_⟩
  -- A capital before a digit would start a cell.
  rw [List.head?_takeWhile, Option.mem_def, Option.filter_eq_some_iff] at next
  obtain ⟨next, goesOn⟩ := next
  unfold startsCell at other
  unfold continuesWord at goesOn
  rw [capital, next] at other
  simp only [Option.all_some, Bool.true_and, Bool.or_eq_false_iff] at other
  simpa [other.2] using goesOn

/-- A word takes the run of small letters and digits after its first letter. -/
theorem parts_scanWord (letter : first.isAlpha = true) (other : startsCell first rest = false) :
    Parts (first :: rest) (scanWord first rest) := by
  have word := isWord_run letter other
  refine ⟨first :: rest.takeWhile continuesWord, by simp [scanWord], ?_⟩
  simp only [scanWord]
  generalize first :: rest.takeWhile continuesWord = run at word
  -- The kind is told by the word.
  unfold wordKind
  split
  · rename_i spelled
    exact Piece.takes_lexeme ⟨spelled, rfl⟩ (by decide) (by decide)
  split
  · rename_i spelled
    exact Piece.takes_lexeme ⟨spelled, rfl⟩ (by decide) (by decide)
  · refine Piece.takes_lexeme ⟨word, ?_, rfl⟩ (by decide) (by decide)
    simp_all

/-- An operator takes its characters, and a separator takes itself. -/
theorem parts_scanMark (first : Char) (rest : List Char) :
    Parts (first :: rest) (scanMark first rest) := by
  -- Two characters that make an operator together are taken before one that is a mark alone.
  unfold scanMark
  split
  · rename_i kind pair
    obtain ⟨second, next, pair⟩ := Option.bind_eq_some_iff.mp pair
    obtain ⟨after, rfl⟩ := List.head?_eq_some_iff.mp next
    exact ⟨[first, second], rfl, Piece.takes_mark (mark?_of_pairKind? pair) (by simp)⟩
  · split
    · rename_i kind single
      exact ⟨[first], rfl, Piece.takes_mark (mark?_of_singleKind? single) (by simp)⟩
    · refine ⟨[first], rfl, ?_⟩
      split
      · rename_i separator
        exact ⟨first, rfl, by simpa [separates, or_assoc] using separator⟩
      · trivial

/-- A piece and what it leaves are parts of the text that it is scanned from. -/
theorem parts_scanPiece (first : Char) (rest : List Char) :
    Parts (first :: rest) (scanPiece first rest) := by
  -- The first character tells what kind of piece it starts.
  unfold scanPiece
  split
  · rename_i quote
    exact quote ▸ parts_scanString rest
  split
  · rename_i starts
    exact parts_scanNumber starts
  split
  · rename_i starts
    exact parts_scanCell starts
  split
  · rename_i other letter
    exact parts_scanWord letter (by simpa using other)
  · exact parts_scanMark first rest

end Scanning

section Covering

variable {tokens : List Token} {text : List Char}

/-- The end of the text covers the empty text. -/
theorem Covers.nil : Covers [Token.endOfText] [] := by
  refine ⟨⟨[], [], by simp, rfl, rfl⟩, ⟨[], rfl, by simp⟩, ?_, fun before token after split _ => ?_⟩
  · intro token member
    rw [List.mem_singleton.mp member]
    exact ⟨rfl, rfl⟩
  · -- There is no token but this one, and it is no string.
    have member : token ∈ [Token.endOfText] := by simp [split]
    rw [List.mem_singleton.mp member]
    exact fun string => nomatch string

/-- A separator before a text is covered by what covers the text. -/
theorem Covers.blank {char : Char} (covers : Covers tokens text)
    (separator : char ∈ [' ', '\t', '\r', '\n']) : Covers tokens (char :: text) := by
  refine ⟨?_, covers.ends, covers.genuine, covers.closed⟩
  -- There is a token at the end at least, and the separator stands before the first one.
  cases tokens with
  | nil =>
    obtain ⟨before, none, _⟩ := covers.ends
    simp at none
  | cons token rest =>
    obtain ⟨gap, after, blanks, rfl, spaced⟩ := covers.spaced
    exact ⟨char :: gap, after, List.forall_mem_cons.mpr ⟨separator, blanks⟩, by simp, spaced⟩

/-- A token and what covers the text after it cover the text from the token on. -/
theorem Covers.token {token : Token} (covers : Covers tokens text)
    (inside : token.kind ≠ .endOfText) (genuine : token.Genuine)
    (closed : tokens ≠ [Token.endOfText] → token.Closed) :
    Covers (token :: tokens) (token.lexeme.toList ++ text) := by
  refine ⟨⟨[], text, by simp, rfl, covers.spaced⟩, ?_,
    List.forall_mem_cons.mpr ⟨genuine, covers.genuine⟩, fun before other after split more => ?_⟩
  · obtain ⟨before, rfl, kinds⟩ := covers.ends
    exact ⟨token :: before, rfl, List.forall_mem_cons.mpr ⟨inside, kinds⟩⟩
  · -- The token is this one or one of those after it.
    rcases List.cons_eq_append_iff.mp split with ⟨rfl, same⟩ | ⟨behind, rfl, rest⟩
    · obtain ⟨rfl, rfl⟩ := List.cons.inj same
      exact closed more
    · exact covers.closed behind other after rest more

/-- The tokens among the pieces of a text cover it, if none of the pieces is a fault. -/
theorem covers_pieces (text : List Char) (faultless : (pieces text).findSome? Piece.fault? = none) :
    Covers ((pieces text).filterMap Piece.token? ++ [Token.endOfText]) text := by
  -- The induction goes from a piece to the text that it leaves.
  induction text using pieces.induct with
  | case1 =>
    rw [pieces]
    exact .nil
  | case2 first rest ih =>
    obtain ⟨taken, split, takes⟩ := parts_scanPiece first rest
    rw [pieces] at faultless ⊢
    generalize scanPiece first rest = scanned at *
    obtain ⟨piece, after⟩ := scanned
    dsimp only at *
    cases piece with
    | fault cause => simp [Piece.fault?] at faultless
    | blank =>
      obtain ⟨char, rfl, separator⟩ := takes
      have covers := ih (by simpa [Piece.fault?] using faultless)
      rw [split]
      exact covers.blank separator
    | token formed =>
      obtain ⟨rfl, inside, genuine, closed⟩ := takes
      have covers := ih (by simpa [Piece.fault?] using faultless)
      rw [split]
      refine covers.token inside genuine fun more => closed ?_
      -- Where nothing is left, only the end of the text comes next.
      rintro rfl
      exact more (by rw [pieces]; rfl)

/-- The empty text has no pieces. -/
theorem pieces_nil : pieces [] = [] := by
  rw [pieces]

/-- A piece that is scanned and the pieces of the text that it leaves. -/
theorem pieces_cons {first : Char} {rest after : List Char} {piece : Piece} {found : List Piece}
    (scanned : scanPiece first rest = (piece, after)) (left : pieces after = found) :
    pieces (first :: rest) = piece :: found := by
  rw [pieces, scanned, left]

/-- A text is tokenized if none of its pieces is a fault, and its tokens are those among them. -/
theorem tokenize_eq_ok_iff {text : String} {tokens : List Token} :
    tokenize text = .ok tokens ↔ (pieces text.toList).findSome? Piece.fault? = none ∧
      (pieces text.toList).filterMap Piece.token? ++ [Token.endOfText] = tokens := by
  unfold tokenize scan
  dsimp only
  cases (pieces text.toList).findSome? Piece.fault? <;> simp

/-- The end of the text closes a scan, and is found nowhere before. -/
theorem exists_before_endOfText {text : String} {tokens : List Token}
    (scanned : tokenize text = .ok tokens) :
    ∃ before, tokens = before ++ [Token.endOfText] ∧ ∀ token ∈ before, token.kind ≠ .endOfText := by
  obtain ⟨faultless, rfl⟩ := tokenize_eq_ok_iff.mp scanned
  exact (covers_pieces text.toList faultless).ends

/-- A text whose pieces have no fault is tokenized to the tokens among them. -/
theorem tokenize_of_pieces {text : String} {found : List Piece} {tokens : List Token}
    (cut : pieces text.toList = found) (faultless : found.findSome? Piece.fault? = none)
    (formed : found.filterMap Piece.token? ++ [Token.endOfText] = tokens) :
    tokenize text = .ok tokens :=
  tokenize_eq_ok_iff.mpr ⟨cut ▸ faultless, cut ▸ formed⟩

/-- A text of one piece that is a token is tokenized to that token. -/
theorem tokenize_of_scanPiece {text : String} {first : Char} {rest : List Char} {token : Token}
    (spelled : text.toList = first :: rest) (scanned : scanPiece first rest = (.token token, [])) :
    tokenize text = .ok [token, Token.endOfText] :=
  tokenize_of_pieces (spelled ▸ pieces_cons scanned pieces_nil) rfl rfl

/-- Tokenizing loses and invents nothing: the tokens of a text cover it. -/
theorem tokenize_covers {text : String} {tokens : List Token}
    (scanned : tokenize text = .ok tokens) : Covers tokens text.toList := by
  obtain ⟨faultless, rfl⟩ := tokenize_eq_ok_iff.mp scanned
  exact covers_pieces text.toList faultless

/-- A text where a lone capital is a word, a mark is not cut in two, and the string at the end lacks
its closing quote. -/
theorem covers_mixed : Covers
    [.plain .identifier ['A'], .plain .notEqual ['!', '='], .plain .cell ['B', '2'],
      ⟨.string, "\"x y", some (.text "x y")⟩, .endOfText]
    "A !=B2\"x y".toList := by
  have cut : pieces "A !=B2\"x y".toList =
      [.token (.plain .identifier ['A']), .blank, .token (.plain .notEqual ['!', '=']),
        .token (.plain .cell ['B', '2']), .token ⟨.string, "\"x y", some (.text "x y")⟩] :=
    pieces_cons rfl <| pieces_cons rfl <| pieces_cons rfl <| pieces_cons rfl <|
      pieces_cons rfl pieces_nil
  exact tokenize_covers (tokenize_of_pieces cut rfl rfl)

end Covering

end Spreadsheet.Formula
