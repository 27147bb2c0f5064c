import Spreadsheet.Proofs.Formula.Rescanning
import Spreadsheet.Formula

/-! Towers of groups on the left of comparisons, which are higher by a comparison for each level of
nesting than groups alone. -/

namespace Spreadsheet.Formula

namespace Tower

/-- A tower of so many floors as text: each floor is a group that is compared with a truth value. -/
def text : Nat → List Char
  | 0 => "True".toList
  | floors + 1 => '(' :: (text floors ++ ")=True".toList)

/-- The token of the truth value. -/
def trueToken : Token := .plain .trueWord "True".toList

/-- The tokens that stand before what a floor holds. -/
def opening : List Token := [.plain .parenLeft ['(']]

/-- The tokens that stand after what a floor holds. -/
def closing : List Token := [.plain .parenRight [')'], .plain .equal ['='], trueToken]

/-- A tower as tokens. -/
def tokens : Nat → List Token
  | 0 => [trueToken]
  | floors + 1 => opening ++ tokens floors ++ closing

/-- A tower as an expression. -/
def expr : Nat → Expr
  | 0 => .literal (.boolean true)
  | floors + 1 => .binary .equal (.group (expr floors)) (.literal (.boolean true))

/-- A text that does not go on with a word. -/
def EndsWord (rest : List Char) : Prop :=
  ∀ next ∈ rest.head?, continuesWord next = false

/-- A mark that starts no longer one is a piece of its own. -/
theorem scanPiece_mark {first : Char} {kind : TokenKind} (single : singleKind? first = some kind)
    (other : first ∈ ['(', ')', '=']) (rest : List Char) :
    scanPiece first rest = (.token (.plain kind [first]), rest) := by
  -- None of the three starts a number, a cell or a word, and none of them starts a pair.
  have alone : rest.head?.bind (pairKind? first) = none := by
    cases rest with
    | nil => rfl
    | cons next rest =>
      rcases (by simpa using other) with rfl | rfl | rfl <;> rfl
  have mark : scanPiece first rest = scanMark first rest := by
    rcases (by simpa using other) with rfl | rfl | rfl <;> rfl
  simp only [mark, scanMark, alone, single]

/-- The truth value is scanned as a word where the text does not go on with one. -/
theorem pieces_true {rest : List Char} (ends : EndsWord rest) :
    pieces ("True".toList ++ rest) = .token trueToken :: pieces rest := by
  have word : IsWord "True".toList := by simp [IsWord]
  -- The small letter after the capital keeps it from starting a cell.
  exact pieces_cons (scanPiece_word word ends rfl) rfl

/-- A tower is scanned to its tokens where the text does not go on with a word. -/
theorem pieces_text (floors : Nat) {rest : List Char} (ends : EndsWord rest) :
    pieces (text floors ++ rest) = (tokens floors).map .token ++ pieces rest := by
  -- A floor is an opening bracket, the floor inside it, and the three tokens that close it.
  induction floors generalizing rest with
  | zero => exact pieces_true ends
  | succ floors ih =>
    have inner : EndsWord (')' :: '=' :: ("True".toList ++ rest)) := by
      intro next head
      have same : next = ')' := by simpa using head.symm
      rw [same]
      decide
    have split : text (floors + 1) ++ rest =
        '(' :: (text floors ++ ')' :: '=' :: ("True".toList ++ rest)) := by
      simp [text]
    have openMark : singleKind? '(' = some .parenLeft := rfl
    have closeMark : singleKind? ')' = some .parenRight := rfl
    have equalMark : singleKind? '=' = some .equal := rfl
    rw [split, pieces_cons (scanPiece_mark openMark (by simp) _) (ih inner),
      pieces_cons (scanPiece_mark closeMark (by simp) _)
        (pieces_cons (scanPiece_mark equalMark (by simp) _) (pieces_true ends))]
    simp [tokens, opening, closing]

/-- A tower as a text is cut into its tokens. -/
theorem tokenize_text (floors : Nat) :
    tokenize (String.ofList (text floors)) = .ok (tokens floors ++ [Token.endOfText]) := by
  -- All pieces are tokens, so none of them is lost and none is a fault.
  have found : pieces (text floors) = (tokens floors).map .token := by
    have ends : EndsWord [] := fun _ none => nomatch none
    simpa [pieces_nil] using pieces_text floors ends
  have formed : ((tokens floors).map Piece.token).filterMap Piece.token? = tokens floors := by
    rw [List.filterMap_map]
    exact List.filterMap_some
  have faultless : ((tokens floors).map Piece.token).findSome? Piece.fault? = none := by
    simp [List.findSome?_eq_none_iff, Piece.fault?]
  simp only [tokenize, scan, String.toList_ofList, found, formed, faultless]

/-- What an expression may stand before: a closing bracket or the end of the text. -/
def Closes (rest : List Token) : Prop :=
  nextKind rest = .parenRight ∨ nextKind rest = .endOfText

/-- No operator stands where an expression is closed. -/
theorem Closes.no_operator {rest : List Token} (closes : Closes rest) (looseness : Nat) :
    operatorAt? looseness rest = none := by
  -- Neither a closing bracket nor the end of the text stands for an operator.
  rcases closes with kind | kind <;> simp [operatorAt?, kind, BinaryOp.ofKind?]

/-- An operand is a whole layer where no operator of the layers up to it follows. -/
theorem layer_of_no_operator {deeper : Nat → Parser Expr} {before rest : List Token} {left : Expr}
    (operand : layer deeper 0 before = .ok (left, rest)) (looseness : Nat)
    (none : ∀ level, 0 < level → level ≤ looseness → operatorAt? level rest = none) :
    layer deeper looseness before = .ok (left, rest) := by
  -- Each layer reads the one below it, and goes on only where an operator of its own follows.
  induction looseness with
  | zero => exact operand
  | succ looseness ih =>
    have lower := ih fun level positive bounded => none level positive (by omega)
    have here := none (looseness + 1) (by omega) (by omega)
    simp only [layer, lower, here, Bind.bind, Except.bind, Pure.pure, Except.pure]

/-- An operand and an operator of the next layer are read on to the right operand. -/
theorem layer_of_operator {deeper : Nat → Parser Expr} {looseness : Nat}
    {before between rest : List Token} {left right : Expr} {op : BinaryOp}
    (operand : layer deeper looseness before = .ok (left, between))
    (found : operatorAt? (looseness + 1) between = some op)
    (other : deeper (looseness + 1) (between.drop 1) = .ok (right, rest)) :
    layer deeper (looseness + 1) before = .ok (.binary op left right, rest) := by
  simp only [layer, operand, found, other, Bind.bind, Except.bind, Pure.pure, Except.pure]

/-- The truth value is read as an expression of any layer. -/
theorem nested_true (room looseness : Nat) {rest : List Token} (closes : Closes rest) :
    nested (room + 1) looseness (trueToken :: rest) = .ok (.literal (.boolean true), rest) := by
  -- The truth value is a primary, and no operator follows it.
  have operand : layer (nested room) 0 (trueToken :: rest) = .ok (.literal (.boolean true), rest) :=
    rfl
  exact layer_of_no_operator operand looseness fun level _ _ => closes.no_operator level

/-- A tower is read as its expression where there is room for its floors. -/
theorem nested_tokens (floors : Nat) {room : Nat} (enough : floors ≤ room) {rest : List Token}
    (closes : Closes rest) :
    nested (room + 1) loosest (tokens floors ++ rest) = .ok (expr floors, rest) := by
  -- The bracket takes one level of nesting, and the truth value on the right needs one, too.
  induction floors generalizing room rest with
  | zero => exact nested_true room loosest closes
  | succ floors ih =>
    obtain ⟨room, rfl⟩ : ∃ less, room = less + 1 := ⟨room - 1, by omega⟩
    let after := Token.plain .equal ['='] :: trueToken :: rest
    have inner : nested (room + 1) loosest (tokens floors ++ .plain .parenRight [')'] :: after) =
        .ok (expr floors, .plain .parenRight [')'] :: after) :=
      ih (by omega) (.inl rfl)
    have split : tokens (floors + 1) ++ rest =
        .plain .parenLeft ['('] :: (tokens floors ++ .plain .parenRight [')'] :: after) := by
      simp [tokens, opening, closing, after]
    have group : layer (nested (room + 1)) 0 (tokens (floors + 1) ++ rest) =
        .ok (.group (expr floors), after) := by
      rw [split]
      show (nested (room + 1) loosest _ >>= _) = _
      rw [inner]
      rfl
    -- Only the loosest of the four layers has the operator that follows the group.
    have left : layer (nested (room + 1)) 3 (tokens (floors + 1) ++ rest) =
        .ok (.group (expr floors), after) := by
      refine layer_of_no_operator group 3 fun level positive bounded => ?_
      have looser : BinaryOp.equal.looseness ≠ level := by
        simp only [BinaryOp.looseness]
        omega
      have kind : nextKind after = .equal := rfl
      simp [operatorAt?, kind, BinaryOp.ofKind?, looser]
    have compares : operatorAt? 4 after = some .equal := rfl
    have right : nested (room + 1) 4 (after.drop 1) = .ok (.literal (.boolean true), rest) :=
      nested_true room 4 closes
    exact layer_of_operator left compares right

/-- A tower is a formula as long as its floors may be nested. -/
theorem parse_text {floors : Nat} (enough : floors ≤ maxNesting) :
    parse (String.ofList (sigil :: text floors)) = .ok (expr floors) := by
  -- The sigil is dropped, and the tokens that are left are those of the tower.
  have stripped : source (String.ofList (sigil :: text floors)) = String.ofList (text floors) := by
    simp [source, afterSigil?]
  have closes : Closes [Token.endOfText] := .inr rfl
  have read := nested_tokens floors enough closes
  have whole : parseTokens (tokens floors ++ [Token.endOfText]) = .ok (expr floors) := by
    unfold parseTokens
    rw [read]
    rfl
  simp only [parse, parseSource, stripped, tokenize_text, whole]
  rfl

end Tower

end Spreadsheet.Formula
