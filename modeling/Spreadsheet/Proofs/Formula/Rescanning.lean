import Spreadsheet.Proofs.Formula.Lexemes
import Spreadsheet.Proofs.Text.Runs

/-! Scanning a lexeme in front of any text that does not go on with it gives the token again. -/

namespace Spreadsheet.Formula

open Text (takeWhile_append_stop dropWhile_append_stop isAlpha_iff not_isDigit_of_isAlpha
  not_isUpper_of_isDigit not_isUpper_of_isLower)

section Rescanning

variable {first : Char} {more rest : List Char}

/-- Two dots start no number. -/
theorem readNumber_dots (rest : List Char) : Decimal.readNumber ('.' :: '.' :: rest) = none := by
  have none : Decimal.Numeral.read ('.' :: '.' :: rest) = none := by
    simp [Decimal.Numeral.read, List.takeWhile, List.dropWhile,
      show Char.isDigit '.' = false from rfl]
  simp [Decimal.readNumber, Decimal.takeSign, none, show Char.toLower '.' = '.' from rfl]

/-- A number is scanned off its lexeme where no digit and no dot follows. -/
theorem scanPiece_number {x : Float} (run : ∀ char ∈ first :: more, continuesNumber char = true)
    (read : Decimal.readNumber (first :: more) = some x)
    (stops : ∀ next ∈ rest.head?, continuesNumber next = false) :
    scanPiece first (more ++ rest) =
      (.token ⟨.number, String.ofList (first :: more), some (.number x)⟩, rest) := by
  obtain ⟨start, inside⟩ := List.forall_mem_cons.mp run
  have unquoted : first ≠ '"' := by
    rintro rfl
    exact nomatch start
  have starts : startsNumber first (more ++ rest) = true := by
    -- A dot starts a number unless another dot follows, and no number starts with two dots.
    unfold startsNumber
    by_cases dot : first = '.'
    · subst dot
      suffices other : (more ++ rest).head? ≠ some '.' by rw [bne_iff_ne.mpr other]; rfl
      intro another
      cases more with
      | nil => exact nomatch stops '.' another
      | cons second more =>
        obtain rfl : second = '.' := by simpa using another
        simp [readNumber_dots] at read
    · simpa [continuesNumber, dot] using start
  simp only [scanPiece, if_neg unquoted, if_pos starts, scanNumber,
    takeWhile_append_stop inside stops, dropWhile_append_stop inside stops, read]

/-- A string is scanned off its lexeme, as its closing quote ends it. -/
theorem scanPiece_string {body : List Char} (inside : '"' ∉ body) (rest : List Char) :
    scanPiece '"' (body ++ '"' :: rest) =
      (.token ⟨.string, String.ofList ('"' :: (body ++ ['"'])), some (.text (String.ofList body))⟩,
        rest) := by
  have unquoted : ∀ char ∈ body, (char != '"') = true := fun char member => by
    simpa using fun same : char = '"' => inside (same ▸ member)
  have stops : ∀ next ∈ ('"' :: rest).head?, (next != '"') = false := by simp
  simp only [scanPiece, if_pos, scanString, takeWhile_append_stop unquoted stops,
    dropWhile_append_stop unquoted stops]
  rfl

/-- A letter is no quote and starts no number. -/
theorem not_number_of_isAlpha (letter : first.isAlpha = true) (text : List Char) :
    first ≠ '"' ∧ startsNumber first text = false := by
  refine ⟨?_, ?_⟩
  · rintro rfl
    exact nomatch letter
  · have undotted : first ≠ '.' := by
      rintro rfl
      exact nomatch letter
    simp [startsNumber, undotted, not_isDigit_of_isAlpha letter]

/-- A cell is scanned off its letters and digits where no digit follows. -/
theorem scanPiece_cell {digit : Char} {digits : List Char}
    (upper : ∀ char ∈ first :: more, char.isUpper = true)
    (numeric : ∀ char ∈ digit :: digits, char.isDigit = true)
    (stops : ∀ next ∈ rest.head?, next.isDigit = false) :
    scanPiece first (more ++ ((digit :: digits) ++ rest)) =
      (.token (.plain .cell (first :: more ++ digit :: digits)), rest) := by
  obtain ⟨capital, letters⟩ := List.forall_mem_cons.mp upper
  -- The digits stop the letters, and what follows stops the digits.
  have numeral : digit.isDigit = true := numeric digit List.mem_cons_self
  have turns : ∀ next ∈ ((digit :: digits) ++ rest).head?, next.isUpper = false := by
    simpa using not_isUpper_of_isDigit numeral
  have starts : startsCell first (more ++ ((digit :: digits) ++ rest)) = true := by
    cases more with
    | nil => simp [startsCell, capital, numeral]
    | cons second more => simp [startsCell, capital, (List.forall_mem_cons.mp letters).1]
  obtain ⟨unquoted, other⟩ :=
    not_number_of_isAlpha (isAlpha_iff.mpr (.inl capital)) (more ++ ((digit :: digits) ++ rest))
  have present : (digit :: digits).isEmpty = false := rfl
  simp only [scanPiece, if_neg unquoted, other, starts, Bool.false_eq_true, if_false, if_true,
    scanCell, takeWhile_append_stop letters turns, dropWhile_append_stop letters turns,
    takeWhile_append_stop numeric stops, dropWhile_append_stop numeric stops, present]

/-- A word is scanned off its lexeme where no word goes on and no cell starts. -/
theorem scanPiece_word (word : IsWord (first :: more))
    (stops : ∀ next ∈ rest.head?, continuesWord next = false)
    (alone : startsCell first (more ++ rest) = false) :
    scanPiece first (more ++ rest) =
      (.token (.plain (wordKind (first :: more)) (first :: more)), rest) := by
  obtain ⟨letter, inside, -⟩ := word
  obtain ⟨unquoted, other⟩ := not_number_of_isAlpha letter (more ++ rest)
  have taken : (more ++ rest).takeWhile continuesWord = more := takeWhile_append_stop inside stops
  have left : (more ++ rest).dropWhile continuesWord = rest := dropWhile_append_stop inside stops
  simp only [scanPiece, if_neg unquoted, other, alone, Bool.false_eq_true, if_false, letter,
    if_true, scanWord, taken, left]

/-- A word starts no cell where a space follows: its capital stands before a small letter or the
space. -/
theorem startsCell_space (word : IsWord (first :: more)) (rest : List Char) :
    startsCell first (more ++ ' ' :: rest) = false := by
  obtain ⟨-, -, turns⟩ := word
  by_cases capital : first.isUpper = true
  · cases more with
    | nil => simp [startsCell, show ' '.isUpper = false from rfl, show ' '.isDigit = false from rfl]
    | cons second more =>
      have small : second.isLower = true := turns capital second rfl
      have digit : second.isDigit = false := not_isDigit_of_isAlpha (isAlpha_iff.mpr (.inr small))
      simp [startsCell, not_isUpper_of_isLower small, digit]
  · simp [startsCell, capital]

/-- A kind that has one spelling is scanned off it where a space follows. -/
theorem scanPiece_mark {kind : TokenKind} (mark : kind.mark? = some (first :: more))
    (rest : List Char) :
    scanPiece first (more ++ ' ' :: rest) =
      (.token (.plain kind (first :: more)), ' ' :: rest) := by
  cases kind <;> cases mark <;> rfl

/-- The lexemes of the kinds of words are words, and each tells its kind. -/
theorem TokenKind.Admits.word {kind : TokenKind} {lexeme : List Char} {literal : Option Literal}
    (admits : kind.Admits lexeme literal) (words : kind ∈ [.trueWord, .falseWord, .identifier]) :
    IsWord lexeme ∧ wordKind lexeme = kind ∧ literal = none := by
  rcases (by simpa using words) with rfl | rfl | rfl
  · obtain ⟨rfl | rfl, rfl⟩ := admits <;> exact ⟨by simp [IsWord], rfl, rfl⟩
  · obtain ⟨rfl | rfl, rfl⟩ := admits <;> exact ⟨by simp [IsWord], rfl, rfl⟩
  · obtain ⟨word, other, rfl⟩ := admits
    exact ⟨word, by simp_all [wordKind], rfl⟩

/-- A string that is closed is a quote, what the string stands for, and a quote. -/
theorem TokenKind.Admits.quoted {lexeme : List Char} {literal : Option Literal}
    (admits : TokenKind.string.Admits lexeme literal) (closed : IsQuoted lexeme) :
    ∃ body, '"' ∉ body ∧ lexeme = '"' :: (body ++ ['"']) ∧
      literal = some (.text (String.ofList body)) := by
  obtain ⟨body, bare, whole | opened, literal⟩ := admits
  · exact ⟨body, bare, whole, literal⟩
  · -- A body without its closing quote would have that quote inside.
    obtain ⟨other, _, same⟩ := closed
    obtain rfl : body = other ++ ['"'] := (List.cons.inj (opened.symm.trans same)).2
    simp at bare

/-- A token that is written as its kind has it is scanned again where a space follows. -/
theorem scanPiece_genuine {token : Token} (genuine : token.Genuine) (closed : token.Closed)
    (inside : token.kind ≠ .endOfText) (rest : List Char) :
    ∃ first more, token.lexeme.toList = first :: more ∧
      scanPiece first (more ++ ' ' :: rest) = (.token token, ' ' :: rest) := by
  -- A space goes on with nothing that a token is made of.
  have stops : ∀ goesOn : Char → Bool, goesOn ' ' = false →
      ∀ next ∈ (' ' :: rest).head?, goesOn next = false := by simp
  obtain ⟨kind, lexeme, literal⟩ := token
  obtain ⟨chars, rfl⟩ : ∃ chars, lexeme = String.ofList chars := ⟨lexeme.toList, by simp⟩
  unfold Token.Genuine Token.Closed at *
  simp only [String.toList_ofList] at genuine closed ⊢
  -- The word kinds go alike, and so do those that have one spelling.
  by_cases words : kind ∈ [.trueWord, .falseWord, .identifier]
  · obtain ⟨word, told, rfl⟩ := genuine.word words
    cases chars with
    | nil => exact word.elim
    | cons first more =>
      refine ⟨first, more, rfl, ?_⟩
      rw [scanPiece_word word (stops _ rfl) (startsCell_space word rest), told]
      rfl
  cases kind with
  | number =>
    obtain ⟨run, x, read, rfl⟩ := genuine
    cases chars with
    | nil => exact nomatch read
    | cons first more => exact ⟨first, more, rfl, scanPiece_number run read (stops _ rfl)⟩
  | string =>
    obtain ⟨body, bare, rfl, rfl⟩ := genuine.quoted (closed rfl)
    refine ⟨'"', body ++ ['"'], rfl, ?_⟩
    rw [List.append_assoc]
    exact scanPiece_string bare (' ' :: rest)
  | cell =>
    obtain ⟨⟨letters, digits, rfl, named, upper, present, numeric⟩, rfl⟩ := genuine
    obtain ⟨first, letters, rfl⟩ := List.exists_cons_of_ne_nil named
    obtain ⟨digit, digits, rfl⟩ := List.exists_cons_of_ne_nil present
    refine ⟨first, letters ++ digit :: digits, rfl, ?_⟩
    rw [List.append_assoc, scanPiece_cell upper numeric (stops _ rfl)]
    rfl
  | trueWord | falseWord | identifier => simp at words
  | endOfText => exact absurd rfl inside
  | _ =>
    obtain ⟨mark, rfl⟩ := genuine
    cases chars with
    | nil => cases mark
    | cons first more => exact ⟨first, more, rfl, scanPiece_mark mark rest⟩

end Rescanning

end Spreadsheet.Formula
