import Mathlib.Data.List.Basic
import Spreadsheet.Formula.Grammar

/-! How an expression is spelled, how tightly its operators bind, and how deep it nests. -/

namespace Spreadsheet.Formula

/-- What a token says in an expression: a literal, a cell, a function's name, or a mark that is told
by its kind alone. -/
inductive Sign where
  | value (value : Value)
  | cell (text : String)
  | name (text : String)
  | mark (kind : TokenKind)

/-- The value that a literal stands for. -/
def Literal.value : Literal → Value
  | .number x => .number x
  | .text content => .text content

/-- What a token says; the end of the text says nothing, nor does a number or a string that stands
for nothing. -/
def Token.sign? (token : Token) : Option Sign :=
  match token.kind with
  | .number | .string => token.literal?.map fun literal => .value literal.value
  | .trueWord => some (.value (.boolean true))
  | .falseWord => some (.value (.boolean false))
  | .cell => some (.cell token.lexeme)
  | .identifier => some (.name token.lexeme)
  | .endOfText => none
  | kind => some (.mark kind)

/-- The kind of token that an operator is written as. -/
def BinaryOp.kind : BinaryOp → TokenKind
  | .add => .plus
  | .subtract => .minus
  | .multiply => .asterisk
  | .divide => .slash
  | .equal => .equal
  | .notEqual => .notEqual
  | .less => .less
  | .lessEqual => .lessEqual
  | .greater => .greater
  | .greaterEqual => .greaterEqual

mutual

/-- What the tokens of an expression say, from left to right. -/
def Expr.signs : Expr → List Sign
  | .literal value => [.value value]
  | .cell text => [.cell text]
  | .range first last => [.cell first, .mark .dotDot, .cell last]
  | .binary op left right => left.signs ++ .mark op.kind :: right.signs
  | .negation operand => .mark .exclamation :: operand.signs
  | .group inner => .mark .parenLeft :: (inner.signs ++ [.mark .parenRight])
  | .call name args =>
    .name name :: .mark .parenLeft :: (Expr.signsOfAll args ++ [.mark .parenRight])

/-- What the tokens of some arguments say, with commas between them. -/
def Expr.signsOfAll : List Expr → List Sign
  | [] => []
  | expr :: rest =>
    expr.signs ++ if rest.isEmpty then [] else .mark .comma :: signsOfAll rest

end

/-- Tokens spell out what some signs say. -/
def Tells (tokens : List Token) (signs : List Sign) : Prop :=
  tokens.map Token.sign? = signs.map some

/-- Tokens spell an expression if they say what it does, each token one sign. -/
def Spells (tokens : List Token) (expr : Expr) : Prop :=
  Tells tokens expr.signs

/-- How tightly an operator binds: one for equality, four for multiplication. -/
def BinaryOp.level : BinaryOp → Nat
  | .equal | .notEqual => 1
  | .less | .lessEqual | .greater | .greaterEqual => 2
  | .add | .subtract => 3
  | .multiply | .divide => 4

/-- How tightly an expression holds together: as its operator binds, five for a negation, and six
for all that has no operator outside of brackets. -/
def Expr.level : Expr → Nat
  | .binary op _ _ => op.level
  | .negation _ => 5
  | _ => 6

mutual

/-- Operators bind as they stand: what is on the left of one binds tighter, what is on the right
binds no looser, and a negation takes no operator beside other negations. -/
def Expr.Stratified : Expr → Prop
  | .literal _ | .cell _ | .range _ _ => True
  | .binary op left right => op.level < left.level ∧ op.level ≤ right.level ∧
    left.Stratified ∧ right.Stratified
  | .negation operand => 5 ≤ operand.level ∧ operand.Stratified
  | .group inner => inner.Stratified
  | .call _ args => Expr.AllStratified args

/-- Operators bind as they stand in all of some arguments. -/
def Expr.AllStratified : List Expr → Prop
  | [] => True
  | expr :: rest => expr.Stratified ∧ AllStratified rest

end

mutual

/-- The most right operands, negations, groups and arguments on one way down an expression; left
operands add nothing. -/
def Expr.nesting : Expr → Nat
  | .literal _ | .cell _ | .range _ _ => 0
  | .binary _ left right => max left.nesting (right.nesting + 1)
  | .negation operand => operand.nesting + 1
  | .group inner => inner.nesting + 1
  | .call _ args => Expr.nestingOfAll args

/-- The deepest nesting of some arguments, each of them being one level. -/
def Expr.nestingOfAll : List Expr → Nat
  | [] => 0
  | expr :: rest => max (expr.nesting + 1) (nestingOfAll rest)

end

/-- The layers of the grammar number the levels from the other end. -/
theorem BinaryOp.level_add_looseness (op : BinaryOp) : op.level + op.looseness = 5 := by
  cases op <;> rfl

/-- Every expression holds together at least as an equality does. -/
theorem Expr.level_pos (expr : Expr) : 0 < expr.level := by
  -- Equality is the loosest operator, and is of level one.
  cases expr with
  | binary op left right => cases op <;> exact Nat.succ_pos _
  | _ => exact Nat.succ_pos _

/-- An operator is read from the kind of token that it is written as. -/
@[simp] theorem BinaryOp.ofKind?_kind (op : BinaryOp) : BinaryOp.ofKind? op.kind = some op := by
  cases op <;> rfl

/-- The kind of token that stands for an operator is the one it is written as. -/
theorem BinaryOp.kind_of_ofKind? {kind : TokenKind} {op : BinaryOp}
    (found : BinaryOp.ofKind? kind = some op) : kind = op.kind := by
  -- Each kind stands for at most one operator.
  cases kind <;> simp only [ofKind?, Option.some.injEq, reduceCtorEq] at found <;> subst found <;>
    rfl

/-- The token of an operator says no more than its kind. -/
theorem Token.sign?_of_ofKind? {token : Token} {op : BinaryOp}
    (found : BinaryOp.ofKind? token.kind = some op) : token.sign? = some (.mark op.kind) := by
  -- An operator is neither a literal nor a reference nor a name.
  have kind := BinaryOp.kind_of_ofKind? found
  unfold Token.sign?
  rw [kind]
  cases op <;> rfl

/-- A token that told a mark is of the kind that it told. -/
theorem Token.kind_of_sign?_mark {token : Token} {kind : TokenKind}
    (told : token.sign? = some (.mark kind)) : token.kind = kind := by
  -- The kinds that tell more than themselves tell no mark.
  unfold Token.sign? at told
  split at told <;> simp_all

/-- A token that told a cell is one, and its text is the cell's. -/
theorem Token.cell_of_sign? {token : Token} {text : String}
    (told : token.sign? = some (.cell text)) : token.kind = .cell ∧ token.lexeme = text := by
  unfold Token.sign? at told
  split at told <;> simp_all

/-- A token that told a name is a word, and its text is the name. -/
theorem Token.identifier_of_sign? {token : Token} {text : String}
    (told : token.sign? = some (.name text)) :
    token.kind = .identifier ∧ token.lexeme = text := by
  unfold Token.sign? at told
  split at told <;> simp_all

/-- The end of the text says nothing. -/
theorem Token.sign?_endOfText {token : Token} (ends : token.kind = .endOfText) :
    token.sign? = none := by
  simp [Token.sign?, ends]

/-- No tokens say nothing. -/
theorem Tells.nil : Tells [] [] :=
  rfl

/-- A token and then others say its sign and then theirs. -/
theorem Tells.cons {token : Token} {tokens : List Token} {sign : Sign} {signs : List Sign}
    (first : token.sign? = some sign) (rest : Tells tokens signs) :
    Tells (token :: tokens) (sign :: signs) := by
  unfold Tells at rest ⊢
  rw [List.map_cons, List.map_cons, first, rest]

/-- Tokens and then others say what they say each. -/
theorem Tells.append {front back : List Token} {first second : List Sign}
    (left : Tells front first) (right : Tells back second) :
    Tells (front ++ back) (first ++ second) := by
  unfold Tells at left right ⊢
  rw [List.map_append, List.map_append, left, right]

/-- Tokens that say a sign and then others start with a token that told it. -/
theorem Tells.exists_cons {tokens : List Token} {sign : Sign} {signs : List Sign}
    (told : Tells tokens (sign :: signs)) :
    ∃ token rest, tokens = token :: rest ∧ token.sign? = some sign ∧ Tells rest signs := by
  obtain ⟨token, rest, rfl, first, others⟩ := List.map_eq_cons_iff.mp told
  exact ⟨token, rest, rfl, first, others⟩

/-- Tokens that say some signs and then others fall into those that say each. -/
theorem Tells.exists_append {tokens : List Token} {first second : List Sign}
    (told : Tells tokens (first ++ second)) :
    ∃ front back, tokens = front ++ back ∧ Tells front first ∧ Tells back second := by
  -- Each token says one sign, so the tokens are parted where the signs are.
  have split : tokens.map Token.sign? = first.map some ++ second.map some := by
    rw [← List.map_append]
    exact told
  obtain ⟨front, back, rfl, left, right⟩ := List.map_eq_append_iff.mp split
  exact ⟨front, back, rfl, left, right⟩

/-- Tokens that say nothing are none. -/
theorem Tells.eq_nil {tokens : List Token} (told : Tells tokens []) : tokens = [] :=
  List.map_eq_nil_iff.mp told

/-- Tokens that say some signs and then one more end with a token that told it. -/
theorem Tells.exists_concat {tokens : List Token} {signs : List Sign} {sign : Sign}
    (told : Tells tokens (signs ++ [sign])) :
    ∃ front last, tokens = front ++ [last] ∧ Tells front signs ∧ last.sign? = some sign := by
  -- What says the last sign is one token and no more.
  obtain ⟨front, back, rfl, left, right⟩ := told.exists_append
  obtain ⟨last, rest, rfl, one, nothing⟩ := right.exists_cons
  exact ⟨front, last, by rw [nothing.eq_nil], left, one⟩

/-- No token that told something ends the text. -/
theorem Tells.kind_ne_endOfText {tokens : List Token} {signs : List Sign}
    (told : Tells tokens signs) : ∀ token ∈ tokens, token.kind ≠ .endOfText := by
  intro token member ends
  -- What the token says is among the signs, and the end of the text says nothing.
  have said : token.sign? ∈ signs.map some := told ▸ List.mem_map_of_mem member
  rw [Token.sign?_endOfText ends] at said
  simp at said

/-- Every expression says something. -/
theorem Expr.signs_ne_nil (expr : Expr) : expr.signs ≠ [] := by
  cases expr <;> simp [Expr.signs]

/-- No expression starts with a closing bracket. -/
theorem Expr.head?_signs_ne_parenRight :
    ∀ expr : Expr, expr.signs.head? ≠ some (.mark .parenRight)
  | .binary _ left _ => by
    -- An operator stands after its left operand, which starts the expression.
    have start := left.head?_signs_ne_parenRight
    rw [Expr.signs, List.head?_append_of_ne_nil _ left.signs_ne_nil]
    exact start
  | .literal _ | .cell _ | .range _ _ | .negation _ | .group _ | .call _ _ => by simp [Expr.signs]

/-- An expression without an operator outside of brackets does not start with one. -/
theorem Expr.head?_signs_ne_exclamation {expr : Expr} (whole : expr.level = 6) :
    expr.signs.head? ≠ some (.mark .exclamation) := by
  -- Operators are not whole, and all else starts with another sign.
  cases expr with
  | binary op left right => cases op <;> simp [Expr.level, BinaryOp.level] at whole
  | negation operand => simp [Expr.level] at whole
  | literal _ | cell _ | range _ _ | group _ | call _ _ => simp [Expr.signs]

/-- One argument says what it says. -/
theorem Expr.signsOfAll_singleton (expr : Expr) : Expr.signsOfAll [expr] = expr.signs := by
  simp [Expr.signsOfAll]

/-- An argument before others is followed by a comma. -/
theorem Expr.signsOfAll_cons (expr : Expr) {rest : List Expr} (more : rest ≠ []) :
    Expr.signsOfAll (expr :: rest) = expr.signs ++ .mark .comma :: Expr.signsOfAll rest := by
  simp [Expr.signsOfAll, more]

/-- The first token of an expression says the expression's first sign. -/
theorem Spells.exists_head {tokens : List Token} {expr : Expr} (spells : Spells tokens expr) :
    ∃ token rest sign, tokens = token :: rest ∧ token.sign? = some sign ∧
      expr.signs.head? = some sign := by
  obtain ⟨sign, signs, split⟩ := List.exists_cons_of_ne_nil expr.signs_ne_nil
  have told : Tells tokens (sign :: signs) := split ▸ spells
  obtain ⟨token, rest, rfl, said, _⟩ := told.exists_cons
  exact ⟨token, rest, sign, rfl, said, by rw [split]; rfl⟩

/-- There are at least as many signs as arguments. -/
theorem Expr.length_le_signsOfAll (args : List Expr) :
    args.length ≤ (Expr.signsOfAll args).length := by
  -- Every argument says something of its own.
  induction args with
  | nil => exact Nat.zero_le _
  | cons arg rest ih =>
    have positive := List.length_pos_of_ne_nil arg.signs_ne_nil
    cases rest with
    | nil =>
      rw [Expr.signsOfAll_singleton]
      exact positive
    | cons next rest =>
      rw [Expr.signsOfAll_cons arg (List.cons_ne_nil next rest), List.length_append,
        List.length_cons]
      simp only [List.length_cons] at ih ⊢
      omega

/-- All of some arguments are stratified if each of them is. -/
theorem Expr.allStratified_iff {args : List Expr} :
    Expr.AllStratified args ↔ ∀ arg ∈ args, arg.Stratified := by
  induction args with
  | nil => simp [Expr.AllStratified]
  | cons arg rest ih => simp [Expr.AllStratified, ih]

/-- Some arguments nest within a bound if each of them does one level further down. -/
theorem Expr.nestingOfAll_le_iff {args : List Expr} {room : Nat} :
    Expr.nestingOfAll args ≤ room ↔ ∀ arg ∈ args, arg.nesting < room := by
  induction args with
  | nil => simp [Expr.nestingOfAll]
  | cons arg rest ih =>
    rw [Expr.nestingOfAll, Nat.max_le, ih, List.forall_mem_cons, Nat.succ_le_iff]

end Spreadsheet.Formula
