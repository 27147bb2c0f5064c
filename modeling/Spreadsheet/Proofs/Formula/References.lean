import Spreadsheet.Proofs.Formula.Mentions
import Spreadsheet.Proofs.Formula.Rescanning
import Spreadsheet.Proofs.Range.Text

/-! References and addresses: a text that is an address is scanned, parsed and resolved as one, and
a cell token that resolves to none has a row or a column that no address has. -/

namespace Spreadsheet

namespace Address

/-- Capitals and then digits, as cells are written, whether or not there is such a cell. -/
structure Spelled (letters digits text : List Char) : Prop where
  whole : text = letters ++ digits
  lettered : letters ≠ []
  capitals : ∀ char ∈ letters, char.isUpper = true
  numbered : digits ≠ []
  numeric : ∀ char ∈ digits, char.isDigit = true

/-- What keeps such a text from being an address: a row with a zero in front, or a coordinate that
is too great. -/
def OutOfReach (letters digits : List Char) : Prop :=
  digits.head? = some '0' ∨ UInt32.size ≤ worth 0 letters ∨
    UInt32.size ≤ Nat.ofDigitChars 10 digits 0

variable {letters digits : List Char} {text : String} {address : Address}

/-- An address is spelled with capitals and then digits, and is within reach. -/
theorem exists_spelled_of_parse (read : parse text = .ok address) :
    ∃ letters digits, Spelled letters digits text.toList ∧ ¬ OutOfReach letters digits := by
  obtain ⟨letters, digits, whole, column, number⟩ := exists_numerals_of_parse read
  refine ⟨letters, digits, ⟨whole, column.nonempty, column.capitals, number.nonempty,
    number.numeric⟩, ?_⟩
  -- Both numerals stand for numbers of the address, and these are small enough.
  have col := address.col.toNat_lt
  have row := address.row.toNat_lt
  rintro (padded | wide | high)
  · exact number.unpadded padded
  · rw [column.stands] at wide
    exact absurd wide (Nat.not_le.mpr col)
  · rw [number.stands] at high
    exact absurd high (Nat.not_le.mpr row)

/-- Capitals and then digits are an address if they are within reach. -/
theorem Spelled.exists_parse (spelled : Spelled letters digits text.toList)
    (within : ¬ OutOfReach letters digits) : ∃ address, parse text = .ok address := by
  obtain ⟨unpadded, narrow, low⟩ := (by
    simpa only [OutOfReach, not_or, Nat.not_le] using within :
      digits.head? ≠ some '0' ∧ worth 0 letters < UInt32.size ∧
        Nat.ofDigitChars 10 digits 0 < UInt32.size)
  refine ⟨⟨UInt32.ofNat (Nat.ofDigitChars 10 digits 0), UInt32.ofNat (worth 0 letters)⟩,
    parse_of_numerals spelled.whole ?_ ?_⟩
  · exact ⟨spelled.lettered, spelled.capitals, (UInt32.toNat_ofNat_of_lt' narrow).symm⟩
  · exact ⟨spelled.numbered, spelled.numeric, unpadded, (UInt32.toNat_ofNat_of_lt' low).symm⟩

/-- Capitals are told from the digits behind them in one way only. -/
theorem Spelled.unique {letters' digits' : List Char} {chars : List Char}
    (spelled : Spelled letters digits chars) (other : Spelled letters' digits' chars) :
    letters = letters' ∧ digits = digits' := by
  have stops : ∀ next ∈ digits.head?, next.isUpper = false := fun next first =>
    Text.not_isUpper_of_isDigit (spelled.numeric next (List.mem_of_mem_head? first))
  have stopsToo : ∀ next ∈ digits'.head?, next.isUpper = false := fun next first =>
    Text.not_isUpper_of_isDigit (other.numeric next (List.mem_of_mem_head? first))
  -- The capitals are the run of them at the start.
  have run := Text.takeWhile_append_stop spelled.capitals stops
  have runToo := Text.takeWhile_append_stop other.capitals stopsToo
  rw [← spelled.whole] at run
  rw [← other.whole, run] at runToo
  have whole := other.whole
  rw [spelled.whole, runToo] at whole
  exact ⟨runToo, List.append_cancel_left whole⟩

/-- Capitals and then digits are no address exactly if they are out of reach. -/
theorem Spelled.parse_fails_iff (spelled : Spelled letters digits text.toList) :
    (∀ address, parse text ≠ .ok address) ↔ OutOfReach letters digits := by
  constructor
  · intro fails
    by_contra within
    obtain ⟨address, read⟩ := spelled.exists_parse within
    exact fails address read
  · intro out address read
    obtain ⟨_, _, others, within⟩ := exists_spelled_of_parse read
    obtain ⟨rfl, rfl⟩ := spelled.unique others
    exact within out

end Address

namespace Formula

open Address (Spelled OutOfReach)

variable {letters digits rest : List Char} {text source one other : String} {token : Token}
  {address first last : Address}

section Scanning

/-- A cell is the first piece of a text where no digit follows it. -/
theorem pieces_spelled {chars : List Char} (spelled : Spelled letters digits chars)
    (stops : ∀ next ∈ rest.head?, next.isDigit = false) :
    pieces (chars ++ rest) = .token (.plain .cell chars) :: pieces rest := by
  obtain ⟨rfl, lettered, capitals, numbered, numeric⟩ := spelled
  obtain ⟨letter, letters, rfl⟩ := List.exists_cons_of_ne_nil lettered
  obtain ⟨digit, digits, rfl⟩ := List.exists_cons_of_ne_nil numbered
  rw [List.append_assoc]
  exact pieces_cons (scanPiece_cell capitals numeric stops) rfl

/-- Two dots are a piece, whatever follows. -/
theorem pieces_dots (rest : List Char) :
    pieces ('.' :: '.' :: rest) = .token (.plain .dotDot ['.', '.']) :: pieces rest :=
  pieces_cons rfl rfl

/-- The text of a cell is scanned to one token. -/
theorem tokenize_spelled (spelled : Spelled letters digits text.toList) :
    tokenize text = .ok [.plain .cell text.toList, Token.endOfText] := by
  have alone : pieces (text.toList ++ []) = _ := pieces_spelled spelled (by simp)
  rw [List.append_nil, pieces_nil] at alone
  exact tokenize_of_pieces alone rfl rfl

/-- The texts of two cells with two dots between them are scanned to three tokens: the digit before
the dots makes no number of them. -/
theorem tokenize_dots {letters' digits' : List Char} (spelled : Spelled letters digits one.toList)
    (spelledToo : Spelled letters' digits' other.toList) :
    tokenize (one ++ ".." ++ other) = .ok [.plain .cell one.toList, .plain .dotDot ['.', '.'],
      .plain .cell other.toList, Token.endOfText] := by
  have whole : (one ++ ".." ++ other).toList = one.toList ++ '.' :: '.' :: other.toList := by
    simp
  have behind : pieces (other.toList ++ []) = _ := pieces_spelled spelledToo (by simp)
  rw [List.append_nil, pieces_nil] at behind
  have ahead : pieces (one.toList ++ '.' :: '.' :: other.toList) = _ :=
    pieces_spelled spelled (by simp [show Char.isDigit '.' = false from rfl])
  rw [pieces_dots, behind] at ahead
  exact tokenize_of_pieces (whole ▸ ahead) rfl rfl

/-- A token alone that is a cell has capitals and then digits for its lexeme. -/
theorem exists_spelled_of_tokenize (scanned : tokenize source = .ok [token, Token.endOfText])
    (cell : token.kind = .cell) :
    ∃ letters digits, Spelled letters digits token.lexeme.toList := by
  obtain ⟨faultless, tokens⟩ := tokenize_eq_ok_iff.mp scanned
  have genuine := (covers_pieces source.toList faultless).genuine token (by simp [tokens])
  unfold Token.Genuine at genuine
  rw [cell] at genuine
  obtain ⟨⟨letters, digits, whole, lettered, capitals, numbered, numeric⟩, _⟩ := genuine
  exact ⟨letters, digits, whole, lettered, capitals, numbered, numeric⟩

end Scanning

section Parsing

/-- A cell token alone is a reference. -/
theorem parseSource_of_cell (scanned : tokenize source = .ok [token, Token.endOfText])
    (cell : token.kind = .cell) : parseSource source = .ok (.cell token.lexeme) := by
  obtain ⟨kind, lexeme, literal⟩ := token
  obtain rfl : kind = .cell := cell
  rw [parseSource, scanned]
  rfl

/-- A source does without its sigil unless it starts with it. -/
theorem source_spelled (spelled : Spelled letters digits text.toList) (behind : String) :
    Formula.source (text ++ behind) = text ++ behind := by
  obtain ⟨whole, lettered, capitals, _, _⟩ := spelled
  obtain ⟨letter, letters, rfl⟩ := List.exists_cons_of_ne_nil lettered
  -- The first character is a capital, which is not the sigil.
  have other : letter ≠ sigil := by
    rintro rfl
    exact nomatch capitals sigil List.mem_cons_self
  simp [Formula.source, afterSigil?, whole, other]

/-- An address is a reference as the source of a formula. -/
theorem parseSource_address (read : Address.parse text = .ok address) :
    parseSource text = .ok (.cell text) := by
  obtain ⟨letters, digits, spelled, _⟩ := Address.exists_spelled_of_parse read
  have reference := parseSource_of_cell (tokenize_spelled spelled) rfl
  rw [reference, Token.plain, String.ofList_toList]

/-- An address is a reference as a formula. -/
theorem parse_address (read : Address.parse text = .ok address) :
    Formula.parse text = .ok (.cell text) := by
  obtain ⟨letters, digits, spelled, _⟩ := Address.exists_spelled_of_parse read
  have bare := source_spelled spelled ""
  rw [String.append_empty] at bare
  rw [Formula.parse, bare, parseSource_address read]

/-- Two addresses with two dots between them are a range as a formula. -/
theorem parseSource_dots (reads : Address.parse one = .ok first)
    (readsToo : Address.parse other = .ok last) :
    parseSource (one ++ ".." ++ other) = .ok (.range one other) := by
  obtain ⟨_, _, spelled, _⟩ := Address.exists_spelled_of_parse reads
  obtain ⟨_, _, spelledToo, _⟩ := Address.exists_spelled_of_parse readsToo
  have parsed : parseTokens [.plain .cell one.toList, .plain .dotDot ['.', '.'],
      .plain .cell other.toList, Token.endOfText] =
        .ok (.range (String.ofList one.toList) (String.ofList other.toList)) :=
    rfl
  rw [parseSource, tokenize_dots spelled spelledToo]
  simp only [parsed, String.ofList_toList]
  rfl

end Parsing

section Evaluating

variable {scope : Scope} {depth : Depth}

/-- Where one more expression is let in, it is counted and evaluated, and no longer counted then. -/
theorem startAt_atNode {α : Type} (evaluation : Evaluation α) (room : depth.nodes < maxNodes) :
    (Evaluation.atNode evaluation).startAt depth =
      (evaluation.startAt ⟨depth.reads, depth.nodes + 1⟩).bind fun ended =>
        .done (ended.1, ⟨ended.2.reads, ended.2.nodes - 1⟩) := by
  simp only [Evaluation.atNode, Evaluation.startAt, Evaluation.ofStart,
    if_neg (Nat.not_le.mpr room)]
  rfl

/-- A range of two addresses has its value at once, wherever one more expression is let in. -/
theorem evaluate_range (reads : Address.parse one = .ok first)
    (readsToo : Address.parse other = .ok last) (room : depth.nodes < maxNodes) :
    (evaluate scope (.range one other)).startAt depth =
      .done (.ok (.range (Range.ofCorners first last)), depth) := by
  have resolved : resolveRange one other = .ok (.range (Range.ofCorners first last)) := by
    rw [resolveRange, resolve_eq_ok_iff.mpr reads, resolve_eq_ok_iff.mpr readsToo]
    rfl
  rw [evaluate, resolved, startAt_atNode _ room]
  rfl

/-- A reference that names no cell fails at once, without a read. -/
theorem evaluate_cell_unresolved (fails : ∀ address, Address.parse text ≠ .ok address)
    (room : depth.nodes < maxNodes) :
    (evaluate scope (.cell text)).startAt depth = .done (.error .outsideGrid, depth) := by
  have unresolved : resolve text = .error .outsideGrid := by
    unfold resolve
    cases read : Address.parse text with
    | ok address => exact absurd read (fails address)
    | error fault => rfl
  rw [evaluate, Scope.readReference, unresolved, startAt_atNode _ room]
  rfl

/-- A reference reads the cell that it names and nothing else, unless that is its own cell or one
read too many; the value is that of the text that it is told. -/
theorem evaluate_cell (read : Address.parse text = .ok address) (room : depth.nodes < maxNodes) :
    (evaluate scope (.cell text)).startAt depth =
      if address = scope.self then .done (.error .ownCell, depth)
      else if scope.maxReads ≤ depth.reads then .done (.error .circular, depth)
      else .ask ⟨address, ⟨depth.reads + 1, depth.nodes + 1⟩⟩ fun answer =>
        .done (answer.map Value.ofCellText, depth) := by
  have resolved : scope.readReference text =
      if address = scope.self then throw .ownCell
      else Evaluation.readCell scope.maxReads address >>= fun shown =>
        pure (Value.ofCellText shown) := by
    rw [Scope.readReference, resolve_eq_ok_iff.mpr read]
    rfl
  rw [evaluate, resolved, startAt_atNode _ room]
  split
  · rfl
  -- The ceiling answers in place of the cell where there is no room for one more read.
  have asks : (Evaluation.readCell scope.maxReads address).startAt
      ⟨depth.reads, depth.nodes + 1⟩ =
        if scope.maxReads ≤ depth.reads then
          .done (.error .circular, ⟨depth.reads, depth.nodes + 1⟩)
        else .ask ⟨address, ⟨depth.reads + 1, depth.nodes + 1⟩⟩ fun answer =>
          .done (answer, ⟨depth.reads, depth.nodes + 1⟩) := by
    simp only [Evaluation.startAt, Evaluation.readCell, Evaluation.ofStart, Evaluation.ofReading]
  show ((((Evaluation.readCell scope.maxReads address).startAt _).bind _).bind _) = _
  rw [asks]
  split
  · rfl
  · show Reading.ask _ _ = _
    congr 1
    funext answer
    cases answer <;> rfl

/-- The value of a source that parses is that of its expression. -/
theorem evaluateSource_of_parse {expr : Expr} (parsed : parseSource source = .ok expr) :
    evaluateSource scope source depth =
      ((evaluate scope expr).startAt depth).bind fun ended =>
        .done (ended.1.mapError .eval, ended.2) := by
  unfold evaluateSource
  rw [parsed]
  rfl

/-- No result of a source that parses is a fault of its spelling. -/
theorem evaluateSource_staged {expr : Expr} (parsed : parseSource source = .ok expr) :
    (evaluateSource scope source depth).Holds (fun _ => True) fun ended =>
      ∀ fault, ended.1 = .error fault → ∃ cause, fault = .eval cause := by
  rw [evaluateSource_of_parse parsed]
  have any : ((evaluate scope expr).startAt depth).Holds (fun _ => True) (fun _ => True) :=
    (evaluate_reads_below scope expr depth).mono (fun _ _ => trivial) fun _ _ => trivial
  refine any.bind fun ended _ fault failed => ?_
  obtain ⟨result, back⟩ := ended
  cases result with
  | ok value => exact nomatch failed
  | error cause => exact ⟨cause, (Except.error.inj failed).symm⟩

end Evaluating

section Resolving

variable {scope : Scope} {depth : Depth}

/-- A cell token alone refers to the address that its lexeme is, if it is one. -/
theorem references_of_cell (scanned : tokenize source = .ok [token, Token.endOfText])
    (cell : token.kind = .cell) :
    references source = (Address.parse token.lexeme).toOption.toList := by
  have last : Token.endOfText.kind ≠ .cell := by decide
  simp only [references, scanned, tokenReferences, List.filter_cons, cell, last, decide_true,
    decide_false, if_true, List.filter_nil, Bool.false_eq_true, if_false, List.filterMap_cons,
    List.filterMap_nil]
  cases (Address.parse token.lexeme).toOption <;> rfl

/-- A cell token alone that is an address is not refused as naming none. -/
theorem evaluateSource_ne_outsideGrid (parsed : parseSource source = .ok (.cell text))
    (read : Address.parse text = .ok address) (room : depth.nodes < maxNodes) :
    evaluateSource scope source depth ≠ .done (.error (.eval .outsideGrid), depth) := by
  rw [evaluateSource_of_parse parsed, evaluate_cell read room]
  -- It is refused for another reason, or there is a read first.
  split
  · exact fun same => nomatch same
  split
  · exact fun same => nomatch same
  · exact fun same => nomatch same

/-- Addresses and references are the same texts. An address is scanned as one cell token, parsed as
a reference, and refers to that address; two addresses with two dots between them are parsed as a
range, with the value that the text has as a range. In turn a cell token alone is never refused for
its spelling, and it names no cell, without asking for any, exactly if its row has a zero in front
or its row or column is too great. -/
theorem references_agree :
    (∀ text address, Address.parse text = .ok address →
      tokenize text = .ok [.plain .cell text.toList, Token.endOfText] ∧
        parse text = .ok (.cell text) ∧ references text = [address]) ∧
      (∀ one other first last, Address.parse one = .ok first → Address.parse other = .ok last →
        parse (one ++ ".." ++ other) = .ok (.range one other) ∧
          ∃ range, Range.parse (one ++ ".." ++ other) = .ok range ∧
            ∀ scope depth, depth.nodes < maxNodes →
              evaluateSource scope (one ++ ".." ++ other) depth =
                .done (.ok (.range range), depth)) ∧
      ∀ source token, tokenize source = .ok [token, Token.endOfText] → token.kind = .cell →
        ∃ letters digits, Spelled letters digits token.lexeme.toList ∧
          (∀ scope depth, (evaluateSource scope source depth).Holds (fun _ => True) fun ended =>
            ∀ fault, ended.1 = .error fault → ∃ cause, fault = .eval cause) ∧
          (references source = [] ↔ OutOfReach letters digits) ∧
          ∀ scope depth, depth.nodes < maxNodes →
            (evaluateSource scope source depth = .done (.error (.eval .outsideGrid), depth) ↔
              OutOfReach letters digits) := by
  -- An address is letters and digits, which the scanner takes as one token of a cell.
  refine ⟨fun text address read => ?_, fun one other first last reads readsToo => ?_,
    fun source token scanned cell => ?_⟩
  · obtain ⟨_, _, spelled, _⟩ := Address.exists_spelled_of_parse read
    have scanned := tokenize_spelled spelled
    refine ⟨scanned, parse_address read, ?_⟩
    rw [references_of_cell scanned rfl, Token.plain, String.ofList_toList, read]
    rfl
  · obtain ⟨_, _, spelled, _⟩ := Address.exists_spelled_of_parse reads
    have parsed := parseSource_dots reads readsToo
    have bare := source_spelled spelled (".." ++ other)
    rw [← String.append_assoc] at bare
    refine ⟨?_, _, Range.parse_dots reads readsToo, fun scope depth room => ?_⟩
    · rw [parse, bare, parsed]
    · rw [evaluateSource_of_parse parsed, evaluate_range reads readsToo room]
      rfl
  -- What a token of a cell spells fails to be an address only if it is out of reach.
  · obtain ⟨letters, digits, spelled⟩ := exists_spelled_of_tokenize scanned cell
    have parsed := parseSource_of_cell scanned cell
    refine ⟨letters, digits, spelled, fun scope depth => evaluateSource_staged parsed, ?_,
      fun scope depth room => ?_⟩
    · rw [references_of_cell scanned cell, ← spelled.parse_fails_iff]
      cases Address.parse token.lexeme <;> simp [Except.toOption]
    · rw [← spelled.parse_fails_iff]
      constructor
      · intro refused address read
        exact evaluateSource_ne_outsideGrid parsed read room refused
      · intro fails
        rw [evaluateSource_of_parse parsed, evaluate_cell_unresolved fails room]
        rfl

/-- An address is a reference, and two of them are a range, whichever corners they tell; but a cell
with a zero in front of its row is a reference in spelling only. -/
theorem references_agree_padded :
    (Address.parse "A1" = .ok ⟨1, 1⟩ ∧
        tokenize "A1" = .ok [.plain .cell ['A', '1'], Token.endOfText] ∧
        parse "A1" = .ok (.cell "A1") ∧ references "A1" = [⟨1, 1⟩]) ∧
      (parse "B2..A1" = .ok (.range "B2" "A1") ∧ ∃ range, Range.parse "B2..A1" = .ok range ∧
        evaluateSource ⟨⟨1, 1⟩, Builtin.registry, defaultMaxReads⟩ "B2..A1" ⟨0, 0⟩ =
          .done (.ok (.range range), ⟨0, 0⟩)) ∧
      tokenize " A01" = .ok [.plain .cell ['A', '0', '1'], Token.endOfText] ∧
      references " A01" = [] ∧
      evaluateSource ⟨⟨1, 1⟩, Builtin.registry, defaultMaxReads⟩ " A01" ⟨0, 0⟩ =
        .done (.error (.eval .outsideGrid), ⟨0, 0⟩) := by
  obtain ⟨addresses, ranges, resolves⟩ := references_agree
  have corner : Address.parse "A1" = .ok ⟨1, 1⟩ := by decide
  have opposite : Address.parse "B2" = .ok ⟨2, 2⟩ := by decide
  obtain ⟨parsed, range, read, evaluates⟩ := ranges "B2" "A1" _ _ opposite corner
  refine ⟨⟨corner, addresses "A1" _ corner⟩,
    ⟨parsed, range, read, evaluates _ ⟨0, 0⟩ (by decide)⟩, ?_⟩
  -- A blank before the token is no part of it.
  have cut : pieces " A01".toList = [.blank, .token (.plain .cell ['A', '0', '1'])] :=
    pieces_cons rfl <| pieces_cons rfl pieces_nil
  have scanned := tokenize_of_pieces cut rfl rfl
  obtain ⟨letters, digits, spelled, _, refers, fails⟩ := resolves " A01" _ scanned rfl
  have here : Spelled ['A'] ['0', '1'] ['A', '0', '1'] :=
    ⟨rfl, by decide, List.all_eq_true.mp rfl, by decide, List.all_eq_true.mp rfl⟩
  rw [Token.plain, String.toList_ofList] at spelled
  obtain ⟨rfl, rfl⟩ := spelled.unique here
  have padded : OutOfReach ['A'] ['0', '1'] := .inl rfl
  exact ⟨scanned, refers.mpr padded, (fails _ ⟨0, 0⟩ (by decide)).mpr padded⟩

end Resolving

end Formula

end Spreadsheet
