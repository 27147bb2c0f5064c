import Spreadsheet.Proofs.Formula.Ceiling
import Spreadsheet.Proofs.Formula.Descent

/-! How high the expressions are that the parser takes: left operands add to the height of an
expression and not to its nesting, but no more than one for each layer of operators. -/

namespace Spreadsheet.Formula

/-- An expression has its operands, what its brackets hold, and its arguments as parts. -/
inductive Expr.HasPart : Expr → Expr → Prop where
  | left (op : BinaryOp) (left right : Expr) : HasPart (.binary op left right) left
  | right (op : BinaryOp) (left right : Expr) : HasPart (.binary op left right) right
  | operand (operand : Expr) : HasPart (.negation operand) operand
  | inner (inner : Expr) : HasPart (.group inner) inner
  | arg (name : String) {args : List Expr} {arg : Expr} (member : arg ∈ args) :
    HasPart (.call name args) arg

section Ways

variable {whole part expr : Expr} {args : List Expr}

/-- No argument is higher than the highest of them. -/
theorem Expr.height_le_heightOfAll {arg : Expr} (member : arg ∈ args) :
    arg.height ≤ Expr.heightOfAll args := by
  induction args with
  | nil => exact nomatch member
  | cons first rest ih =>
    rw [Expr.heightOfAll]
    rcases List.mem_cons.mp member with rfl | later
    · exact Nat.le_max_left _ _
    · exact Nat.le_trans (ih later) (Nat.le_max_right _ _)

/-- Where there are arguments, one of them is the highest. -/
theorem Expr.exists_height_eq_heightOfAll (more : args ≠ []) :
    ∃ arg ∈ args, arg.height = Expr.heightOfAll args := by
  -- The induction compares the first argument with the highest of the others.
  induction args with
  | nil => exact absurd rfl more
  | cons first rest ih =>
    rw [Expr.heightOfAll]
    by_cases lower : Expr.heightOfAll rest ≤ first.height
    · exact ⟨first, List.mem_cons_self, (Nat.max_eq_left lower).symm⟩
    · -- What is higher than the first argument is one of the others.
      have higher : first.height ≤ Expr.heightOfAll rest := Nat.le_of_not_le lower
      have others : rest ≠ [] := by
        rintro rfl
        exact lower (Nat.zero_le _)
      obtain ⟨arg, member, same⟩ := ih others
      exact ⟨arg, List.mem_cons_of_mem first member, by rw [same, Nat.max_eq_right higher]⟩

/-- Every part of an expression is lower than the expression. -/
theorem Expr.HasPart.height_lt (has : whole.HasPart part) : part.height < whole.height := by
  cases has with
  | left op => exact Nat.lt_succ_of_le (Nat.le_max_left _ _)
  | right op => exact Nat.lt_succ_of_le (Nat.le_max_right _ _)
  | operand => exact Nat.lt_succ_self _
  | inner => exact Nat.lt_succ_self _
  | arg name member => exact Nat.lt_succ_of_le (Expr.height_le_heightOfAll member)

/-- An expression that is higher than one alone has a part that is lower by just one. -/
theorem Expr.exists_hasPart (whole : Expr) (high : 1 < whole.height) :
    ∃ part, whole.HasPart part ∧ part.height + 1 = whole.height := by
  -- The part is the highest one, of which an operation has two to choose from and a call any
  -- number.
  cases whole with
  | literal value => exact absurd high (Nat.lt_irrefl 1)
  | cell text => exact absurd high (Nat.lt_irrefl 1)
  | range first last => exact absurd high (Nat.lt_irrefl 1)
  | binary op left right =>
    rcases Nat.le_total right.height left.height with lower | lower
    · exact ⟨left, .left op left right, by rw [Expr.height, Nat.max_eq_left lower]⟩
    · exact ⟨right, .right op left right, by rw [Expr.height, Nat.max_eq_right lower]⟩
  | negation operand => exact ⟨operand, .operand operand, rfl⟩
  | group inner => exact ⟨inner, .inner inner, rfl⟩
  | call name args =>
    have more : args ≠ [] := by
      rintro rfl
      exact Nat.lt_irrefl 1 high
    obtain ⟨arg, member, same⟩ := Expr.exists_height_eq_heightOfAll more
    exact ⟨arg, .arg name member, by rw [Expr.height, same]⟩

/-- Every expression is as high as itself alone at least. -/
theorem Expr.height_pos (expr : Expr) : 0 < expr.height := by
  have positive := expr.lt_add_height 0
  rwa [Nat.zero_add] at positive

/-- No way down an expression, from part to part, is longer than the expression is high. -/
theorem Expr.length_le_height {way : List Expr} (chain : (expr :: way).IsChain Expr.HasPart) :
    (expr :: way).length ≤ expr.height := by
  induction way generalizing expr with
  | nil => exact expr.height_pos
  | cons next way ih =>
    obtain ⟨has, onward⟩ := List.isChain_cons_cons.mp chain
    exact Nat.lt_of_le_of_lt (ih onward) has.height_lt

/-- Some way down an expression is as long as the expression is high. -/
theorem Expr.exists_way (expr : Expr) :
    ∃ way, (expr :: way).IsChain Expr.HasPart ∧ (expr :: way).length = expr.height := by
  -- The way goes from each expression to the highest of its parts, which is lower by one.
  induction height : expr.height generalizing expr with
  | zero => exact absurd height (Nat.ne_of_gt expr.height_pos)
  | succ lower ih =>
    by_cases alone : lower = 0
    · exact ⟨[], List.IsChain.singleton expr, by rw [alone]; rfl⟩
    · obtain ⟨part, has, next⟩ := expr.exists_hasPart (by omega)
      obtain ⟨way, chain, long⟩ := ih part (by omega)
      exact ⟨part :: way, List.isChain_cons_cons.mpr ⟨has, chain⟩, congrArg Nat.succ long⟩

end Ways

/-- The greatest height of an expression of a layer that nests so deep: with no nesting it stands
alone, and else it is an operand on the left of one operator for each layer, over what it nests. -/
def tallest : Nat → Nat → Nat
  | 0, _ => 1
  | nesting + 1, looseness => tallest nesting loosest + 1 + looseness

section

variable {nesting looseness : Nat}

/-- Of all layers together, each level of nesting adds itself and the four operators. -/
theorem tallest_loosest (nesting : Nat) : tallest nesting loosest = 5 * nesting + 1 := by
  induction nesting with
  | zero => rfl
  | succ nesting ih =>
    rw [tallest, ih]
    show 5 * nesting + 1 + 1 + 4 = 5 * (nesting + 1) + 1
    omega

/-- There is room for one expression on every level of nesting. -/
theorem tallest_pos : 0 < tallest nesting looseness := by
  cases nesting with
  | zero => exact Nat.one_pos
  | succ nesting =>
    rw [tallest]
    omega

/-- What stands one level of nesting further in is lower than what holds it may be. -/
theorem lt_tallest_of_deeper {height depth : Nat}
    (low : ∀ nesting, depth ≤ nesting → height ≤ tallest nesting loosest)
    (nests : depth + 1 ≤ nesting) : height < tallest nesting looseness := by
  obtain ⟨nesting, rfl⟩ := Nat.exists_eq_add_of_le' (Nat.one_le_of_lt nests)
  have inside := low nesting (Nat.le_of_succ_le_succ nests)
  rw [tallest]
  omega

end

mutual

/-- A stratified expression of a layer is no higher than the layer allows for its nesting. -/
theorem Expr.height_le_tallest (expr : Expr) {nesting looseness : Nat}
    (stratified : expr.Stratified) (level : 5 ≤ expr.level + looseness)
    (nests : expr.nesting ≤ nesting) : expr.height ≤ tallest nesting looseness := by
  -- On the way down a left operand gives up a layer, and every other part a level of nesting.
  cases expr with
  | literal value => exact tallest_pos
  | cell text => exact tallest_pos
  | range first last => exact tallest_pos
  | binary op left right =>
    obtain ⟨leftLevel, rightLevel, leftStratified, rightStratified⟩ := stratified
    obtain ⟨leftNests, rightNests⟩ := Nat.max_le.mp nests
    obtain ⟨nesting, rfl⟩ := Nat.exists_eq_add_of_le' (Nat.one_le_of_lt rightNests)
    obtain ⟨below, layer, _⟩ := op.exists_looseness
    have levels := op.level_add_looseness
    -- The left operand is of a layer further down, and the right one is a level further in.
    have leftHeight := left.height_le_tallest leftStratified
      (show 5 ≤ left.level + below by omega) leftNests
    have rightHeight := right.height_le_tallest rightStratified right.level_add_loosest
      (Nat.le_of_succ_le_succ rightNests)
    simp only [Expr.level] at level
    simp only [tallest] at leftHeight ⊢
    refine Nat.succ_le_of_lt (Nat.max_lt.mpr ⟨?_, ?_⟩)
    · omega
    · omega
  | negation operand =>
    exact lt_tallest_of_deeper (fun _ fits => operand.height_le_tallest stratified.2
      operand.level_add_loosest fits) nests
  | group inner =>
    exact lt_tallest_of_deeper (fun _ fits => inner.height_le_tallest stratified
      inner.level_add_loosest fits) nests
  | call name args => exact Expr.heightOfAll_lt_tallest args stratified nests

/-- Some stratified arguments are all lower than the call that holds them may be. -/
theorem Expr.heightOfAll_lt_tallest (args : List Expr) {nesting looseness : Nat}
    (stratified : Expr.AllStratified args) (nests : Expr.nestingOfAll args ≤ nesting) :
    Expr.heightOfAll args < tallest nesting looseness := by
  cases args with
  | nil => exact tallest_pos
  | cons arg rest =>
    obtain ⟨argNests, restNests⟩ := Nat.max_le.mp nests
    -- Each argument is a level further in than the call.
    have argLower : arg.height < tallest nesting looseness :=
      lt_tallest_of_deeper (fun _ fits => arg.height_le_tallest stratified.1
        arg.level_add_loosest fits) argNests
    exact Nat.max_lt.mpr ⟨argLower, Expr.heightOfAll_lt_tallest rest stratified.2 restNests⟩

end

/-- What the parser takes is no higher than five expressions for each level of nesting that is
allowed and one more, and neither is any way down it: however long a formula is, whatever goes down
its expression from part to part goes no deeper than that. -/
theorem parseTokens_height {tokens : List Token} {expr : Expr}
    (parsed : parseTokens tokens = .ok expr) :
    expr.height ≤ 5 * maxNesting + 1 ∧
      ∀ way : List Expr, (expr :: way).IsChain Expr.HasPart →
        (expr :: way).length ≤ 5 * maxNesting + 1 := by
  -- The parser starts at the loosest layer, with room for the nesting that is allowed.
  obtain ⟨⟨read, rest⟩, found, done⟩ := exists_ok_of_bind parsed
  obtain ⟨taken, _, _, fits⟩ := nested_sound _ _ found
  dsimp only at done
  split at done
  · obtain rfl := Except.ok.inj done
    have low : read.height ≤ 5 * maxNesting + 1 :=
      calc read.height
        _ ≤ tallest maxNesting loosest :=
          read.height_le_tallest fits.stratified fits.level (Nat.le_of_lt_succ fits.nesting)
        _ = 5 * maxNesting + 1 := tallest_loosest maxNesting
    exact ⟨low, fun way chain => Nat.le_trans (Expr.length_le_height chain) low⟩
  · exact nomatch done

namespace Steep

/-- The tokens that stand after what a floor holds: an operator of every layer, each with a truth
value on its right. -/
def closing : List Token :=
  [.plain .parenRight [')'], .plain .asterisk ['*'], Tower.trueToken, .plain .plus ['+'],
    Tower.trueToken, .plain .less ['<'], Tower.trueToken, .plain .equal ['='], Tower.trueToken]

/-- The tokens of so many floors, each a group on the left of the operators. -/
def tokens : Nat → List Token
  | 0 => [Tower.trueToken]
  | floors + 1 => Tower.opening ++ tokens floors ++ closing

/-- The expression of so many floors. -/
def expr : Nat → Expr
  | 0 => .literal (.boolean true)
  | floors + 1 =>
    [BinaryOp.multiply, .add, .less, .equal].foldl
      (fun left op => .binary op left (.literal (.boolean true))) (.group (expr floors))

/-- The tokens of the floors spell their expression. -/
theorem spells_tokens (floors : Nat) : Spells (tokens floors) (expr floors) := by
  -- A floor adds its opening bracket in front and its closing tokens behind.
  induction floors with
  | zero => rfl
  | succ floors ih =>
    have opens : Tells Tower.opening [.mark .parenLeft] := rfl
    have closes : Tells closing (.mark .parenRight ::
        [BinaryOp.multiply, .add, .less, .equal].flatMap
          fun op => [.mark op.kind, .value (.boolean true)]) := rfl
    have whole := (opens.append ih).append closes
    simpa [Spells, tokens, expr, Expr.signs] using whole

/-- The operators of a floor bind as they stand. -/
theorem stratified_expr (floors : Nat) : (expr floors).Stratified := by
  induction floors with
  | zero => trivial
  | succ floors ih => simp [expr, Expr.Stratified, Expr.level, BinaryOp.level, ih]

/-- Every floor is one level of nesting. -/
theorem nesting_expr (floors : Nat) : (expr floors).nesting = floors := by
  induction floors with
  | zero => rfl
  | succ floors ih =>
    simp only [expr, List.foldl, Expr.nesting, ih]
    omega

/-- Every floor is five expressions high, as high as a level of nesting may be. -/
theorem height_expr (floors : Nat) : (expr floors).height = 5 * floors + 1 := by
  induction floors with
  | zero => rfl
  | succ floors ih =>
    simp only [expr, List.foldl, Expr.height, ih]
    omega

/-- The floors are read as their expression as long as they may be nested. -/
theorem parseTokens_tokens {floors : Nat} (enough : floors ≤ maxNesting) :
    parseTokens (tokens floors ++ [Token.endOfText]) = .ok (expr floors) := by
  have nests : (expr floors).nesting < maxNesting + 1 := by
    rw [nesting_expr]
    exact Nat.lt_succ_of_le enough
  -- What fits into the room at the start is read whole.
  have fits : (expr floors).Fits loosest (maxNesting + 1) :=
    Expr.fits_loosest (stratified_expr floors) nests
  have stops : Stops loosest [Token.endOfText] := stops_of_not_operator rfl rfl (by decide)
  have read := nested_complete (maxNesting + 1) (Nat.le_refl _) (spells_tokens floors) fits stops
  unfold parseTokens
  rw [read]
  rfl

end Steep

/-- With as many floors as may be nested the height is reached, on a way of just that length. -/
theorem parseTokens_height_steep :
    let highest := Steep.expr maxNesting
    parseTokens (Steep.tokens maxNesting ++ [Token.endOfText]) = .ok highest ∧
      highest.height ≤ 5 * maxNesting + 1 ∧
      (∀ way, (highest :: way).IsChain Expr.HasPart →
        (highest :: way).length ≤ 5 * maxNesting + 1) ∧
      ∃ way, (highest :: way).IsChain Expr.HasPart ∧
        (highest :: way).length = 5 * maxNesting + 1 := by
  have parsed := Steep.parseTokens_tokens (Nat.le_refl maxNesting)
  obtain ⟨low, ways⟩ := parseTokens_height parsed
  obtain ⟨way, chain, long⟩ := (Steep.expr maxNesting).exists_way
  exact ⟨parsed, low, ways, way, chain, long.trans (Steep.height_expr maxNesting)⟩

end Spreadsheet.Formula
