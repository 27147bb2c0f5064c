import Mathlib.Algebra.Ring.Parity
import Spreadsheet.Proofs.Formula.Rescanning

/-! Outside of strings a separator parts a text in two that are scanned each on its own. -/

namespace Spreadsheet.Formula

open Text (takeWhile_append_cons dropWhile_append_cons count_dropWhile)

/-- What has been scanned, with more text behind what is left. -/
def followedBy (more : List Char) (scanned : Piece × List Char) : Piece × List Char :=
  (scanned.1, scanned.2 ++ more)

section Scans

variable {first blank : Char} {front : List Char}

/-- The separators are the space, the tabulator and the two characters that end lines. -/
theorem separates_iff : separates blank = true ↔ blank ∈ [' ', '\t', '\r', '\n'] := by
  simp [separates, or_assoc]

/-- A separator is a piece of its own. -/
theorem scanPiece_separator (separator : separates blank = true) (back : List Char) :
    scanPiece blank back = (.blank, back) := by
  rcases (by simpa using separates_iff.mp separator) with rfl | rfl | rfl | rfl <;>
    cases back <;> rfl

/-- A separator goes on with nothing that a token is made of. -/
theorem not_goesOn_of_separates (separator : separates blank = true) :
    continuesNumber blank = false ∧ continuesWord blank = false ∧ blank.isUpper = false ∧
      blank.isDigit = false ∧ blank ≠ '.' := by
  rcases (by simpa using separates_iff.mp separator) with rfl | rfl | rfl | rfl <;> decide

/-- No operator has a separator for its second character. -/
theorem pairKind?_of_separates (separator : separates blank = true) (first : Char) :
    pairKind? first blank = none := by
  rcases (by simpa using separates_iff.mp separator) with rfl | rfl | rfl | rfl <;>
    simp [pairKind?]

/-- A string that is closed before a separator is scanned without a look at what is behind. -/
theorem scanString_append (closes : '"' ∈ front) (more : List Char) :
    scanString (front ++ more) = followedBy more (scanString front) := by
  obtain ⟨body, after, rfl, inside⟩ := List.eq_append_cons_of_mem closes
  have unquoted : ∀ char ∈ body, (char != '"') = true := fun char member => by
    simpa using fun same : char = '"' => inside (same ▸ member)
  simp [scanString, followedBy, List.takeWhile_append_of_pos unquoted,
    List.dropWhile_append_of_pos unquoted]

end Scans

section Separated

variable {blank : Char} (separator : separates blank = true) (first : Char)
  (front back : List Char)

include separator

/-- A number ends before a separator, and so does what is no number. -/
theorem scanNumber_append : scanNumber first (front ++ blank :: back) =
    followedBy (blank :: back) (scanNumber first front) := by
  obtain ⟨stops, _⟩ := not_goesOn_of_separates separator
  simp only [scanNumber, takeWhile_append_cons stops, dropWhile_append_cons stops]
  split <;> rfl

/-- A cell ends before a separator, and so do letters without a number. -/
theorem scanCell_append : scanCell first (front ++ blank :: back) =
    followedBy (blank :: back) (scanCell first front) := by
  obtain ⟨_, _, letters, digits, _⟩ := not_goesOn_of_separates separator
  simp only [scanCell, takeWhile_append_cons letters, dropWhile_append_cons letters,
    takeWhile_append_cons digits, dropWhile_append_cons digits]
  split <;> rfl

/-- A word ends before a separator. -/
theorem scanWord_append : scanWord first (front ++ blank :: back) =
    followedBy (blank :: back) (scanWord first front) := by
  obtain ⟨_, stops, _⟩ := not_goesOn_of_separates separator
  simp only [scanWord, takeWhile_append_cons stops, dropWhile_append_cons stops]
  rfl

/-- An operator ends before a separator, and a stray character does as well. -/
theorem scanMark_append : scanMark first (front ++ blank :: back) =
    followedBy (blank :: back) (scanMark first front) := by
  unfold scanMark
  cases front with
  | nil =>
    -- What could have been the second character of an operator is the separator.
    have alone : ([] ++ blank :: back).head?.bind (pairKind? first) = none :=
      pairKind?_of_separates separator first
    rw [alone]
    dsimp only [List.head?_nil, Option.bind_none]
    split <;> rfl
  | cons second front =>
    simp only [List.cons_append, List.head?_cons, Option.bind_some]
    split
    · rfl
    · split <;> rfl

/-- Whether a number starts is told before a separator. -/
theorem startsNumber_append : startsNumber first (front ++ blank :: back) =
    startsNumber first front := by
  obtain ⟨_, _, _, _, dotless⟩ := not_goesOn_of_separates separator
  unfold startsNumber
  cases front with
  | nil =>
    -- Neither a separator nor the end of the text is the dot that would make it two.
    have other : (([] ++ blank :: back).head? != some '.') = true := by simpa using dotless
    rw [other]
    rfl
  | cons second front => rfl

variable {first front}

/-- A capital that stands alone before a separator is a word. -/
theorem scanPiece_capital (capital : first.isUpper = true) :
    scanPiece first (blank :: back) =
      (.token (.plain (wordKind [first]) [first]), blank :: back) := by
  obtain ⟨_, stops, upper, digit, _⟩ := not_goesOn_of_separates separator
  have letter : first.isAlpha = true := Text.isAlpha_iff.mpr (.inl capital)
  obtain ⟨unquoted, other⟩ := not_number_of_isAlpha letter (blank :: back)
  have alone : startsCell first (blank :: back) = false := by simp [startsCell, upper, digit]
  simp [scanPiece, unquoted, other, alone, letter, scanWord, stops]

/-- Any other piece is scanned off the text before a separator, where strings are closed. -/
theorem scanPiece_append (closes : first = '"' → '"' ∈ front)
    (further : front = [] → first.isUpper = false) :
    scanPiece first (front ++ blank :: back) =
      followedBy (blank :: back) (scanPiece first front) := by
  have cells : startsCell first (front ++ blank :: back) = startsCell first front := by
    cases front with
    | nil => simp [startsCell, further rfl]
    | cons second front => rfl
  -- The same branch is taken on both sides.
  unfold scanPiece
  rw [startsNumber_append separator first front back, cells]
  split
  · rename_i quote
    exact scanString_append (closes quote) _
  split
  · exact scanNumber_append separator first front back
  split
  · exact scanCell_append separator first front back
  split
  · exact scanWord_append separator first front back
  · exact scanMark_append separator first front back

end Separated

section Quotes

variable {first : Char} {front : List Char}

/-- Where quotes come in pairs, every string is closed, and quotes come in pairs after it. -/
theorem even_quotes_scanString (paired : Even (('"' :: front).count '"')) :
    '"' ∈ front ∧ Even ((scanString front).2.count '"') := by
  rw [List.count_cons_self] at paired
  have closes : '"' ∈ front := by
    by_contra none
    rw [List.count_eq_zero.mpr none] at paired
    exact absurd paired (by decide)
  refine ⟨closes, ?_⟩
  obtain ⟨body, after, rfl, inside⟩ := List.eq_append_cons_of_mem closes
  have unquoted : ∀ char ∈ body, (char != '"') = true := fun char member => by
    simpa using fun same : char = '"' => inside (same ▸ member)
  -- One quote opens the string, and another one closes it.
  simp only [List.count_append, List.count_eq_zero.mpr inside, List.count_cons_self] at paired
  simp only [scanString, List.dropWhile_append_of_pos unquoted, List.dropWhile_cons,
    bne_self_eq_false, Bool.false_eq_true, if_false, List.drop_succ_cons, List.drop_zero]
  rw [Nat.even_iff] at paired ⊢
  omega

/-- No operator has a quote for its second character. -/
theorem ne_quote_of_pairKind? {second : Char} {kind : TokenKind}
    (pair : pairKind? first second = some kind) : second ≠ '"' := by
  rintro rfl
  unfold pairKind? at pair
  split at pair <;> simp_all

/-- Every piece leaves quotes in pairs where they come in pairs. -/
theorem even_quotes_scanPiece (paired : Even ((first :: front).count '"')) :
    Even ((scanPiece first front).2.count '"') := by
  unfold scanPiece
  split
  · rename_i quote
    exact (even_quotes_scanString (quote ▸ paired)).2
  -- No piece but a string starts with a quote or takes one.
  rename_i unquoted
  rw [List.count_cons_of_ne unquoted] at paired
  split
  · simp only [scanNumber]
    split <;> rwa [count_dropWhile rfl]
  split
  · simp only [scanCell]
    split
    · rwa [count_dropWhile rfl]
    · rwa [count_dropWhile rfl, count_dropWhile rfl]
  split
  · simp only [scanWord]
    rwa [count_dropWhile rfl]
  · unfold scanMark
    split
    · rename_i kind pair
      obtain ⟨second, next, pair⟩ := Option.bind_eq_some_iff.mp pair
      obtain ⟨after, rfl⟩ := List.head?_eq_some_iff.mp next
      rwa [List.count_cons_of_ne (ne_quote_of_pairKind? pair)] at paired
    · split <;> exact paired

end Quotes

section Parting

variable {blank : Char} (separator : separates blank = true)

include separator

/-- Where quotes come in pairs, a piece is scanned off the text before a separator, and quotes come
in pairs in what is left of it; and that is so whatever is behind the separator. -/
theorem exists_scanPiece_append {first : Char} {front : List Char}
    (paired : Even ((first :: front).count '"')) :
    ∃ piece after, after.length ≤ front.length ∧ Even (after.count '"') ∧
      ∀ back, scanPiece first (front ++ blank :: back) = (piece, after ++ blank :: back) := by
  by_cases alone : front = [] ∧ first.isUpper = true
  · obtain ⟨rfl, capital⟩ := alone
    exact ⟨_, [], Nat.le_refl _, by simp, fun back => scanPiece_capital separator back capital⟩
  · have closes : first = '"' → '"' ∈ front := fun quote =>
      (even_quotes_scanString (quote ▸ paired)).1
    refine ⟨(scanPiece first front).1, (scanPiece first front).2, length_scanPiece_le first front,
      even_quotes_scanPiece paired, fun back => ?_⟩
    exact scanPiece_append separator back closes
      fun none => Bool.eq_false_iff.mpr fun capital => alone ⟨none, capital⟩

/-- A separator outside of strings is a piece, and what is before it has the same pieces whatever is
behind it. -/
theorem exists_pieces_append {front : List Char} (paired : Even (front.count '"')) :
    ∃ found, ∀ back, pieces (front ++ blank :: back) = found ++ .blank :: pieces back := by
  -- The induction goes from a piece to what is left before the separator.
  induction length : front.length using Nat.strong_induction_on generalizing front with
  | _ size ih =>
    cases front with
    | nil =>
      refine ⟨[], fun back => ?_⟩
      exact pieces_cons (scanPiece_separator separator back) rfl
    | cons first front =>
      obtain ⟨piece, after, shorter, left, scanned⟩ := exists_scanPiece_append separator paired
      rw [List.length_cons] at length
      obtain ⟨found, pieces⟩ := ih after.length (by omega) left rfl
      exact ⟨piece :: found, fun back => pieces_cons (scanned back) (pieces back)⟩

end Parting

/-- Where the quotes before a separator come in pairs, a text is scanned in two parts: the tokens of
what is before it, faulty or not, and then those of what is behind it, each as if it stood alone;
and the first fault is that of the first part, if it has one, or else that of the second. -/
theorem scan_append (front back : String) {blank : Char}
    (separator : blank ∈ [' ', '\t', '\r', '\n']) (paired : Even (front.toList.count '"')) :
    ∃ tokens, (scan (front ++ String.singleton blank)).1 = tokens ++ [Token.endOfText] ∧
      (scan (front ++ String.singleton blank ++ back)).1 = tokens ++ (scan back).1 ∧
      (scan (front ++ String.singleton blank ++ back)).2 =
        (scan (front ++ String.singleton blank)).2.or (scan back).2 := by
  obtain ⟨found, parts⟩ := exists_pieces_append (separates_iff.mpr separator) paired
  have short : pieces (front ++ String.singleton blank).toList = found ++ [.blank] := by
    rw [String.toList_append, String.toList_singleton, parts, pieces_nil]
  have long : pieces (front ++ String.singleton blank ++ back).toList =
      found ++ .blank :: pieces back.toList := by
    rw [String.toList_append, String.toList_append, String.toList_singleton, List.append_assoc]
    exact parts back.toList
  -- The separator itself is neither a token nor a fault.
  have token : Piece.token? .blank = none := rfl
  have fault : Piece.fault? .blank = none := rfl
  refine ⟨found.filterMap Piece.token?, ?_, ?_, ?_⟩ <;> unfold scan
  · rw [short]
    simp [token]
  · rw [long]
    simp [token]
  · rw [short, long]
    simp [fault]

/-- Letters without a number before a separator and a stray character behind it: the tokens around
both are found, and the fault of the letters is told. -/
theorem scan_append_faulty :
    '\t' ∈ [' ', '\t', '\r', '\n'] ∧ Even ("AB \"a b\" A".toList.count '"') ∧
      scan ("AB \"a b\" A" ++ String.singleton '\t' ++ "?B2") =
        ([⟨.string, "\"a b\"", some (.text "a b")⟩, .plain .identifier ['A'],
          .plain .cell ['B', '2'], .endOfText], some .malformedCell) := by
  have separator : '\t' ∈ [' ', '\t', '\r', '\n'] := by decide
  have paired : Even ("AB \"a b\" A".toList.count '"') := ⟨1, rfl⟩
  obtain ⟨tokens, short, formed, fault⟩ := scan_append "AB \"a b\" A" "?B2" separator paired
  have before : pieces ("AB \"a b\" A" ++ String.singleton '\t').toList =
      [.fault .malformedCell, .blank, .token ⟨.string, "\"a b\"", some (.text "a b")⟩, .blank,
        .token (.plain .identifier ['A']), .blank] := by
    rw [String.toList_append, String.toList_singleton]
    exact pieces_cons rfl <| pieces_cons rfl <| pieces_cons rfl <| pieces_cons rfl <|
      pieces_cons rfl <| pieces_cons rfl pieces_nil
  have behind : pieces "?B2".toList =
      [.fault .strayCharacter, .token (.plain .cell ['B', '2'])] :=
    pieces_cons rfl <| pieces_cons rfl pieces_nil
  have front : scan ("AB \"a b\" A" ++ String.singleton '\t') =
      ([⟨.string, "\"a b\"", some (.text "a b")⟩, .plain .identifier ['A']] ++ [Token.endOfText],
        some .malformedCell) := by
    unfold scan
    rw [before]
    rfl
  have back : scan "?B2" = ([.plain .cell ['B', '2'], .endOfText], some .strayCharacter) := by
    unfold scan
    rw [behind]
    rfl
  -- The tokens of the first part are those before the end of its text.
  rw [front] at short fault
  rw [back] at formed fault
  obtain rfl := List.append_cancel_right short
  exact ⟨separator, paired, Prod.ext formed fault⟩

end Spreadsheet.Formula
