import Mathlib.Algebra.Ring.Parity
import Spreadsheet.Proofs.Formula.Rescanning

/-! Writing the lexemes of a text with a space after each, and scanning what is written. -/

namespace Spreadsheet.Formula

section Quotes

/-- Only strings have quotes in their lexemes. -/
theorem TokenKind.Admits.unquoted {kind : TokenKind} {lexeme : List Char}
    {literal : Option Literal} (admits : kind.Admits lexeme literal) (other : kind ≠ .string) :
    '"' ∉ lexeme := by
  intro member
  -- A word is made of letters and digits, whichever of the three kinds of word it is.
  by_cases words : kind ∈ [.trueWord, .falseWord, .identifier]
  · obtain ⟨word, -, -⟩ := admits.word words
    cases lexeme with
    | nil => exact word
    | cons first more =>
      obtain ⟨letter, inside, -⟩ := word
      rcases List.mem_cons.mp member with rfl | member
      · exact nomatch letter
      · exact nomatch inside '"' member
  cases kind with
  | number => exact nomatch admits.1 '"' member
  | string => exact other rfl
  | cell =>
    obtain ⟨⟨letters, digits, rfl, -, upper, -, numeric⟩, -⟩ := admits
    rcases List.mem_append.mp member with member | member
    · exact nomatch upper '"' member
    · exact nomatch numeric '"' member
  | trueWord | falseWord | identifier => simp at words
  | _ =>
    obtain ⟨mark, -⟩ := admits
    cases mark
    simp at member

/-- The quotes of a token. -/
def Token.quotes (token : Token) : Nat :=
  token.lexeme.toList.count '"'

/-- A closed token has two quotes or none. -/
theorem Token.Closed.even_quotes {token : Token} (closed : token.Closed)
    (genuine : token.Genuine) : Even token.quotes := by
  unfold Token.quotes
  by_cases string : token.kind = .string
  · obtain ⟨body, bare, whole⟩ := closed string
    have two : token.lexeme.toList.count '"' = 2 := by simp [whole, List.count_eq_zero.mpr bare]
    exact two ▸ even_two
  · simp [List.count_eq_zero.mpr (genuine.unquoted string)]

/-- A token that is not closed has one quote. -/
theorem Token.Genuine.quotes_of_not_closed {token : Token} (genuine : token.Genuine)
    (unclosed : ¬ token.Closed) : token.quotes = 1 := by
  obtain ⟨string, notQuoted⟩ := Classical.not_imp.mp unclosed
  unfold Token.Genuine at genuine
  rw [string] at genuine
  obtain ⟨body, bare, whole | opened, -⟩ := genuine
  · exact absurd ⟨body, bare, whole⟩ notQuoted
  · simp [Token.quotes, opened, List.count_eq_zero.mpr bare]

/-- The quotes of a text are those of the tokens that it is made of. -/
theorem Spaced.count_quotes {tokens : List Token} {text : List Char} (spaced : Spaced tokens text) :
    text.count '"' = (tokens.map Token.quotes).sum := by
  induction tokens generalizing text with
  | nil => simp [show text = [] from spaced]
  | cons token rest ih =>
    obtain ⟨gap, after, blanks, rfl, spaced⟩ := spaced
    have bare : '"' ∉ gap := fun member => by simpa using blanks '"' member
    simp [List.count_eq_zero.mpr bare, ih spaced, Token.quotes]

/-- Even numbers add up to an even number. -/
theorem even_sum {counts : List Nat} (even : ∀ count ∈ counts, Even count) : Even counts.sum := by
  induction counts with
  | nil => exact ⟨0, rfl⟩
  | cons count counts ih =>
    obtain ⟨here, there⟩ := List.forall_mem_cons.mp even
    rw [List.sum_cons]
    exact here.add (ih there)

/-- Where the quotes of a text come in pairs, all tokens that cover it are closed. -/
theorem Covers.closed_of_even {tokens : List Token} {text : List Char} (covers : Covers tokens text)
    (paired : Even (text.count '"')) : ∀ token ∈ tokens, token.Closed := by
  intro token member
  obtain ⟨before, after, rfl⟩ := List.append_of_mem member
  -- Only the token before the end of the text could be open, and its quote would be the odd one.
  by_cases last : after = [Token.endOfText]
  · subst last
    by_contra unclosed
    have one : token.quotes = 1 := (covers.genuine token member).quotes_of_not_closed unclosed
    have others : Even (before.map Token.quotes).sum := by
      refine even_sum fun count counted => ?_
      obtain ⟨other, mem, rfl⟩ := List.mem_map.mp counted
      obtain ⟨front, back, rfl⟩ := List.append_of_mem mem
      have closed : other.Closed :=
        covers.closed front other (back ++ [token, Token.endOfText]) (by simp) fun same => by
          simpa using congrArg List.length same
      exact closed.even_quotes (covers.genuine other (by simp))
    have none : Token.endOfText.quotes = 0 := rfl
    rw [covers.spaced.count_quotes] at paired
    simp only [List.map_append, List.map_cons, List.map_nil, List.sum_append, List.sum_cons,
      List.sum_nil, one, none] at paired
    rw [Nat.even_iff] at paired others
    omega
  · exact covers.closed before token after rfl last

end Quotes

section Respacing

/-- The lexemes of a text's tokens in order, with one space after each. -/
def respaced (tokens : List Token) : List Char :=
  (tokens.filter fun token => token.kind ≠ .endOfText).flatMap fun token =>
    token.lexeme.toList ++ [' ']

/-- Lexemes with a space after each are scanned to their tokens, with a blank after each. -/
theorem pieces_respaced {tokens : List Token} (genuine : ∀ token ∈ tokens, token.Genuine)
    (closed : ∀ token ∈ tokens, token.Closed)
    (inside : ∀ token ∈ tokens, token.kind ≠ .endOfText) :
    pieces (tokens.flatMap fun token => token.lexeme.toList ++ [' ']) =
      tokens.flatMap fun token => [.token token, .blank] := by
  -- A token whose lexeme is followed by a space is scanned back before the rest is looked at.
  induction tokens with
  | nil => rw [List.flatMap_nil, pieces, List.flatMap_nil]
  | cons token rest ih =>
    obtain ⟨first, more, split, scanned⟩ := scanPiece_genuine (genuine token List.mem_cons_self)
      (closed token List.mem_cons_self) (inside token List.mem_cons_self)
      (rest.flatMap fun token => token.lexeme.toList ++ [' '])
    have blank : ∀ text, scanPiece ' ' text = (.blank, text) := fun text => by
      cases text <;> rfl
    have after := ih (fun token member => genuine token (List.mem_cons_of_mem _ member))
      (fun token member => closed token (List.mem_cons_of_mem _ member))
      (fun token member => inside token (List.mem_cons_of_mem _ member))
    simp only [List.flatMap_cons, split, List.cons_append, List.append_assoc, List.nil_append]
    rw [pieces, scanned, pieces, blank, after]

/-- Where the quotes of a text come in pairs, writing its lexemes with a space after each and
scanning them again gives the same tokens. -/
theorem tokenize_respaced {text : String} {tokens : List Token}
    (scanned : tokenize text = .ok tokens) (paired : Even (text.toList.count '"')) :
    tokenize (String.ofList (respaced tokens)) = .ok tokens := by
  obtain ⟨sound, rfl⟩ := tokenize_eq_ok_iff.mp scanned
  have covers := covers_pieces text.toList sound
  have closed := covers.closed_of_even paired
  obtain ⟨before, split, inside⟩ := covers.ends
  rw [split] at covers closed ⊢
  -- Leaving out the end of the text, which has no lexeme to write, leaves the tokens before it.
  have written : respaced (before ++ [Token.endOfText]) =
      before.flatMap fun token => token.lexeme.toList ++ [' '] := by
    have kept : before.filter (fun token => token.kind ≠ .endOfText) = before := by
      simpa using inside
    have dropped : [Token.endOfText].filter (fun token => token.kind ≠ .endOfText) = [] := rfl
    rw [respaced, List.filter_append, kept, dropped, List.append_nil]
  have found := pieces_respaced (fun token member => covers.genuine token (by simp [member]))
    (fun token member => closed token (by simp [member])) inside
  -- The blanks among the pieces are neither tokens nor faults.
  have formed : ((before.flatMap fun token => [.token token, .blank]).filterMap Piece.token?) =
      before := by
    rw [List.filterMap_flatMap]
    exact List.flatMap_singleton' before
  have faultless : (before.flatMap fun token => [.token token, .blank]).findSome? Piece.fault? =
      none := by
    rw [List.findSome?_eq_none_iff]
    intro piece member
    obtain ⟨token, -, member⟩ := List.mem_flatMap.mp member
    rcases (by simpa using member) with rfl | rfl <;> rfl
  rw [tokenize_eq_ok_iff, String.toList_ofList, written, found, formed]
  exact ⟨faultless, rfl⟩

/-- A text where two cells are parted, a lone capital stays a word, and a string keeps its blank. -/
theorem respaced_mixed :
    tokenize "A1 B2 >= \"a b\" C " = .ok
      [.plain .cell ['A', '1'], .plain .cell ['B', '2'], .plain .greaterEqual ['>', '='],
        ⟨.string, "\"a b\"", some (.text "a b")⟩, .plain .identifier ['C'], .endOfText] := by
  -- The text that is written anew is scanned by the theorem, and only this one by hand.
  have cut : pieces "A1B2>=\t\"a b\"C ".toList =
      [.token (.plain .cell ['A', '1']), .token (.plain .cell ['B', '2']),
        .token (.plain .greaterEqual ['>', '=']), .blank,
        .token ⟨.string, "\"a b\"", some (.text "a b")⟩, .token (.plain .identifier ['C']),
        .blank] :=
    pieces_cons rfl <| pieces_cons rfl <| pieces_cons rfl <| pieces_cons rfl <|
      pieces_cons rfl <| pieces_cons rfl <| pieces_cons rfl pieces_nil
  have paired : Even ("A1B2>=\t\"a b\"C ".toList.count '"') := ⟨1, rfl⟩
  have scanned : tokenize "A1B2>=\t\"a b\"C " = .ok
      [.plain .cell ['A', '1'], .plain .cell ['B', '2'], .plain .greaterEqual ['>', '='],
        ⟨.string, "\"a b\"", some (.text "a b")⟩, .plain .identifier ['C'], .endOfText] :=
    tokenize_of_pieces cut rfl rfl
  have written := tokenize_respaced scanned paired
  simpa [respaced, Token.plain, Token.endOfText] using written

end Respacing

end Spreadsheet.Formula
