import Spreadsheet.Proofs.Formula.Parsing
import Spreadsheet.Proofs.Formula.Tower

/-! How the parser goes down an expression, one equation for each form of it, and what it comes to
where the expression nests too deeply. -/

namespace Spreadsheet.Formula

/-- Every expression holds together at least as the loosest layer does. -/
theorem Expr.level_add_loosest (expr : Expr) : 5 ≤ expr.level + loosest :=
  Nat.succ_le_of_lt (Nat.lt_add_of_pos_left expr.level_pos)

section

variable {room looseness : Nat} {tokens taken rest : List Token} {fault : ParseFault}

/-- The layer of an operator lies above that of negations and primaries. -/
theorem BinaryOp.exists_looseness (op : BinaryOp) :
    ∃ below, op.looseness = below + 1 ∧ below + 1 ≤ loosest := by
  cases op <;> exact ⟨_, rfl, by decide⟩

/-- An operation that a layer can read is on it or on one below. -/
theorem BinaryOp.looseness_le {op : BinaryOp} {left right : Expr}
    (level : 5 ≤ (Expr.binary op left right).level + looseness) : op.looseness ≤ looseness := by
  have levels := op.level_add_looseness
  simp only [Expr.level] at level
  omega

/-- A fault of a layer is one of all the looser layers. -/
theorem nested_eq_error_of_le {loose : Nat} (le : looseness ≤ loose)
    (fails : nested room looseness tokens = .error fault) :
    nested room loose tokens = .error fault := by
  cases room with
  | zero => exact fails
  | succ room =>
    -- A layer starts with the one below it, and goes on only if that has read something.
    induction loose, le using Nat.le_induction with
    | base => exact fails
    | succ loose le ih =>
      show layer (nested room) (loose + 1) tokens = .error fault
      have below : layer (nested room) loose tokens = .error fault := ih
      simp only [layer, below, Bind.bind, Except.bind]

/-- After its left operand and itself, an operator's right operand is what is left to read. -/
theorem nested_binary {op : BinaryOp} {left : Expr} {mark : Token}
    (level : op.level < left.level) (stratified : left.Stratified) (nesting : left.nesting ≤ room)
    (spells : Spells taken left) (said : mark.sign? = some (.mark op.kind)) :
    nested (room + 1) op.looseness (taken ++ mark :: tokens) = do
      let (right, rest) ← nested room op.looseness tokens
      return (.binary op left right, rest) := by
  obtain ⟨below, same, bound⟩ := op.exists_looseness
  have levels := op.level_add_looseness
  -- The left operand is all that the layer below reads, as it stops at the operator.
  have fits : left.Fits below (room + 1) := ⟨stratified, by omega, by omega⟩
  have stops : Stops below (mark :: tokens) := stops_of_looser said (by omega)
  have read : layer (nested room) below (taken ++ mark :: tokens) = .ok (left, mark :: tokens) :=
    nested_complete (room + 1) (by omega) spells fits stops
  have kind : nextKind (mark :: tokens) = op.kind := Token.kind_of_sign?_mark said
  have found : operatorAt? (below + 1) (mark :: tokens) = some op := by
    simp [operatorAt?, kind, same]
  rw [same]
  show layer (nested room) (below + 1) (taken ++ mark :: tokens) = _
  simp only [layer, read, found, List.drop_one, List.tail_cons, Bind.bind, Except.bind]

/-- After an exclamation mark, the operand is what is left to read. -/
theorem nested_negation {mark : Token} (said : mark.sign? = some (.mark .exclamation)) :
    nested (room + 1) 0 (mark :: tokens) = do
      let (operand, rest) ← nested room 0 tokens
      return (.negation operand, rest) := by
  have kind : nextKind (mark :: tokens) = .exclamation := Token.kind_of_sign?_mark said
  show layer (nested room) 0 (mark :: tokens) = _
  simp only [layer, if_pos kind, List.drop_one, List.tail_cons]

/-- After an opening bracket, what it holds is left to read, and the bracket that closes it. -/
theorem nested_group {start : Token} (opens : start.sign? = some (.mark .parenLeft)) :
    nested (room + 1) 0 (start :: tokens) = do
      let (inner, rest) ← nested room loosest tokens
      let rest ← expect .parenRight .missingParen rest
      return (.group inner, rest) := by
  have kind : start.kind = .parenLeft := Token.kind_of_sign?_mark opens
  show layer (nested room) 0 (start :: tokens) = _
  simp [layer, primary, nextKind, kind]

/-- After a name and an opening bracket, arguments are left to read if the bracket does not close
at once, and then the bracket that closes it. -/
theorem nested_call {word start : Token} {name : String} (said : word.sign? = some (.name name))
    (opens : start.sign? = some (.mark .parenLeft)) (more : nextKind tokens ≠ .parenRight) :
    nested (room + 1) 0 (word :: start :: tokens) = do
      let (args, rest) ← argumentList (nested room loosest) (tokens.length + 1) tokens
      let rest ← expect .parenRight .missingParen rest
      return (.call name args, rest) := by
  obtain ⟨kind, rfl⟩ := Token.identifier_of_sign? said
  have other : nextKind (word :: start :: tokens) ≠ .exclamation := by simp [nextKind, kind]
  have opened : expect .parenLeft .unexpectedToken (start :: tokens) = .ok tokens :=
    expect_cons (Token.kind_of_sign?_mark opens)
  -- A bracket that closed at once would end the call without a look at arguments.
  have called : callArguments (nested room loosest) (start :: tokens) = do
      let (args, rest) ← argumentList (nested room loosest) (tokens.length + 1) tokens
      let rest ← expect .parenRight .missingParen rest
      return (args, rest) := by
    rw [callArguments, opened]
    exact if_neg more
  show layer (nested room) 0 (word :: start :: tokens) = _
  simp only [layer, if_neg other, primary, kind, called, bind_assoc, pure_bind]

/-- After an argument and a comma, the other arguments are left to read. -/
theorem argumentList_cons {bound : Nat} {arg : Expr} {comma : Token}
    (stratified : arg.Stratified) (nesting : arg.nesting < room) (spells : Spells taken arg)
    (said : comma.sign? = some (.mark .comma)) :
    argumentList (nested room loosest) (bound + 1) (taken ++ comma :: tokens) = do
      let (args, rest) ← argumentList (nested room loosest) bound tokens
      return (arg :: args, rest) := by
  have kind : nextKind (comma :: tokens) = .comma := Token.kind_of_sign?_mark said
  have stops : Stops loosest (comma :: tokens) := stops_of_not_operator kind rfl (by decide)
  have read := nested_complete room (Nat.le_refl _) spells (Expr.fits_loosest stratified nesting)
    stops
  simp only [argumentList, read, if_pos kind, List.drop_one, List.tail_cons, Bind.bind,
    Except.bind]

/-- A fault of the first argument is one of all of them. -/
theorem argumentList_eq_error {argument : Parser Expr} {bound : Nat}
    (fails : argument tokens = .error fault) :
    argumentList argument (bound + 1) tokens = .error fault := by
  simp only [argumentList, fails, Bind.bind, Except.bind]

end

section TooDeep

variable {left right operand inner arg : Expr} {args others : List Expr}

/-- Reading an expression stops where it nests deeper than there is room for, whatever comes after
it. -/
def Expr.StopsDeep (expr : Expr) : Prop :=
  ∀ (room looseness : Nat) (tokens rest : List Token), expr.Stratified →
    5 ≤ expr.level + looseness → room ≤ expr.nesting → Spells tokens expr →
    nested room looseness (tokens ++ rest) = .error .tooDeep

/-- Reading arguments stops where one of them nests too deeply. -/
def Expr.AllStopDeep (args : List Expr) : Prop :=
  ∀ (room bound : Nat) (tokens rest : List Token), Expr.AllStratified args →
    room < Expr.nestingOfAll args → Tells tokens (Expr.signsOfAll args) →
    (tokens ++ rest).length < bound →
    argumentList (nested room loosest) bound (tokens ++ rest) = .error .tooDeep

namespace Expr.StopsDeep

/-- Without any room nothing is read at all, so it is enough to look at how reading goes on with
some. -/
theorem of_succ {expr : Expr}
    (further : ∀ (room looseness : Nat) (tokens rest : List Token), expr.Stratified →
      5 ≤ expr.level + looseness → room < expr.nesting → Spells tokens expr →
      nested (room + 1) looseness (tokens ++ rest) = .error .tooDeep) : expr.StopsDeep := by
  intro room looseness tokens rest stratified level deep spells
  cases room with
  | zero => rfl
  | succ room => exact further room looseness tokens rest stratified level deep spells

/-- An operation is too deep because its left operand is, on the same level, or because its right
operand is, a level further down. -/
theorem binary (op : BinaryOp) (leftStops : left.StopsDeep) (rightStops : right.StopsDeep) :
    (Expr.binary op left right).StopsDeep := by
  refine of_succ fun room looseness tokens rest stratified level deep spells => ?_
  obtain ⟨leftLevel, rightLevel, leftStratified, rightStratified⟩ := stratified
  obtain ⟨front, back, rfl, leftSpells, told⟩ := Tells.exists_append spells
  obtain ⟨mark, back, rfl, said, rightSpells⟩ := told.exists_cons
  have levels := op.level_add_looseness
  have layers := BinaryOp.looseness_le level
  rw [List.append_assoc, List.cons_append]
  -- The left operand is read first, and stops the parser if it is too deep itself.
  by_cases fits : left.nesting ≤ room
  · -- The left operand is read, so it is the right one that is too deep.
    have deeper : room ≤ right.nesting := by
      simp only [Expr.nesting] at deep
      omega
    have fails := rightStops room op.looseness back rest rightStratified (by omega) deeper
      rightSpells
    refine nested_eq_error_of_le layers ?_
    rw [nested_binary leftLevel leftStratified fits leftSpells said, fails]
    rfl
  · exact leftStops (room + 1) looseness front (mark :: (back ++ rest)) leftStratified (by omega)
      (by omega) leftSpells

/-- A negation is too deep because its operand is, with one level less to go and room for one
less. -/
theorem negation (operandStops : operand.StopsDeep) : (Expr.negation operand).StopsDeep := by
  refine of_succ fun room looseness tokens rest stratified level deep spells => ?_
  obtain ⟨operandLevel, operandStratified⟩ := stratified
  obtain ⟨mark, others, rfl, said, told⟩ := Tells.exists_cons spells
  have fails := operandStops room 0 others rest operandStratified operandLevel
    (Nat.le_of_lt_succ deep) told
  refine nested_eq_error_of_le (Nat.zero_le _) ?_
  rw [List.cons_append, nested_negation said, fails]
  rfl

/-- A group is too deep because what it holds is. -/
theorem group (innerStops : inner.StopsDeep) : (Expr.group inner).StopsDeep := by
  refine of_succ fun room looseness tokens rest stratified level deep spells => ?_
  obtain ⟨start, others, rfl, opens, more⟩ := Tells.exists_cons spells
  obtain ⟨inside, finish, rfl, told, closes⟩ := more.exists_concat
  have fails := innerStops room loosest inside (finish :: rest) stratified inner.level_add_loosest
    (Nat.le_of_lt_succ deep) told
  refine nested_eq_error_of_le (Nat.zero_le _) ?_
  rw [List.cons_append, List.append_assoc, List.singleton_append, nested_group opens, fails]
  rfl

/-- A call is too deep because one of its arguments is: it is no level of its own, but each of them
is one. -/
theorem call (name : String) (argsStop : AllStopDeep args) : (Expr.call name args).StopsDeep := by
  refine of_succ fun room looseness tokens rest stratified level deep spells => ?_
  obtain ⟨word, others, rfl, said, more⟩ := Tells.exists_cons spells
  obtain ⟨start, others, rfl, opens, more⟩ := more.exists_cons
  obtain ⟨listed, finish, rfl, told, closes⟩ := more.exists_concat
  have fails := argsStop room _ listed (finish :: rest) stratified deep told (Nat.lt_succ_self _)
  -- An argument that is too deep is there, so the bracket does not close at once.
  have other : nextKind (listed ++ finish :: rest) ≠ .parenRight := by
    cases args with
    | nil => exact absurd deep (Nat.not_lt_zero _)
    | cons arg others => exact nextKind_ne_parenRight told
  have split : word :: start :: (listed ++ [finish]) ++ rest =
      word :: start :: (listed ++ finish :: rest) := by
    simp
  refine nested_eq_error_of_le (Nat.zero_le _) ?_
  rw [split, nested_call said opens other, fails]
  rfl

end Expr.StopsDeep

/-- Some arguments are too deep because the first one is, or one of the others. -/
theorem Expr.AllStopDeep.cons (argStops : arg.StopsDeep) (othersStop : AllStopDeep others) :
    AllStopDeep (arg :: others) := by
  intro room bound tokens rest stratified deep told enough
  obtain ⟨bound, rfl⟩ := Nat.exists_eq_add_of_le' (Nat.zero_lt_of_lt enough)
  obtain ⟨firstStratified, othersStratified⟩ := stratified
  obtain ⟨front, back, rfl, first, more⟩ := Tells.exists_append told
  rw [List.append_assoc]
  -- The arguments are read in order, and the first that is too deep stops the parser.
  by_cases fits : arg.nesting < room
  · -- The first argument is read, so it is one of the others that is too deep.
    have deeper : room < Expr.nestingOfAll others := by
      simp only [Expr.nestingOfAll] at deep
      omega
    cases others with
    | nil => exact absurd deeper (Nat.not_lt_zero _)
    | cons next others =>
      obtain ⟨comma, back, rfl, said, more⟩ := Tells.exists_cons more
      have less : (back ++ rest).length < bound := by
        simp only [List.length_append, List.length_cons] at enough ⊢
        omega
      have fails := othersStop room bound back rest othersStratified deeper more less
      rw [List.cons_append, argumentList_cons firstStratified fits first said, fails]
      rfl
  · exact argumentList_eq_error (argStops room loosest front (back ++ rest) firstStratified
      arg.level_add_loosest (by omega) first)

mutual

/-- Reading any expression stops where it nests too deeply. -/
theorem Expr.stopsDeep : ∀ expr : Expr, expr.StopsDeep
  | .literal _ | .cell _ | .range _ _ =>
    .of_succ fun _ _ _ _ _ _ deep => absurd deep (Nat.not_lt_zero _)
  | .binary op left right => .binary op left.stopsDeep right.stopsDeep
  | .negation operand => .negation operand.stopsDeep
  | .group inner => .group inner.stopsDeep
  | .call name args => .call name (Expr.allStopDeep args)

/-- Reading any arguments stops where one of them nests too deeply. -/
theorem Expr.allStopDeep : ∀ args : List Expr, Expr.AllStopDeep args
  | [] => fun _ _ _ _ _ deep => absurd deep (Nat.not_lt_zero _)
  | arg :: others => .cons arg.stopsDeep (Expr.allStopDeep others)

end

end TooDeep

/-- Tokens that spell a stratified expression which nests deeper than is allowed are refused for
just that, whatever comes after them. -/
theorem parseTokens_tooDeep {tokens : List Token} {expr : Expr} (stratified : expr.Stratified)
    (deep : maxNesting < expr.nesting) (spells : Spells tokens expr) (rest : List Token) :
    parseTokens (tokens ++ rest) = .error .tooDeep := by
  -- The parser starts with room for the nesting that is allowed, and meets the fault on its way.
  have fails := expr.stopsDeep (maxNesting + 1) loosest tokens rest stratified
    expr.level_add_loosest (Nat.succ_le_of_lt deep) spells
  simp only [parseTokens, fails, Bind.bind, Except.bind]

namespace Tower

/-- The tokens of a tower spell its expression. -/
theorem spells (floors : Nat) : Spells (tokens floors) (expr floors) := by
  -- A floor adds its opening bracket in front and its closing tokens behind.
  induction floors with
  | zero => rfl
  | succ floors ih =>
    have opens : Tells opening [.mark .parenLeft] := rfl
    have closes : Tells closing
        [.mark .parenRight, .mark .equal, .value (.boolean true)] := rfl
    have whole := (opens.append ih).append closes
    simpa [Spells, tokens, expr, Expr.signs, BinaryOp.kind] using whole

/-- The groups and the comparisons of a tower bind as they stand. -/
theorem stratified (floors : Nat) : (expr floors).Stratified := by
  induction floors with
  | zero => trivial
  | succ floors ih => simp [expr, Expr.Stratified, Expr.level, BinaryOp.level, ih]

/-- Every floor of a tower is one level of nesting. -/
theorem nesting_expr (floors : Nat) : (expr floors).nesting = floors := by
  -- The bracket on the left is a level, and the truth value on the right is no deeper.
  induction floors with
  | zero => rfl
  | succ floors ih =>
    simp only [expr, Expr.nesting, ih]
    omega

end Tower

/-- A tower of one floor more than may be nested is refused for its depth. -/
theorem parseTokens_highTower :
    let tower := Tower.expr (maxNesting + 1)
    tower.Stratified ∧ maxNesting < tower.nesting ∧ Spells (Tower.tokens (maxNesting + 1)) tower ∧
      parseTokens (Tower.tokens (maxNesting + 1) ++ [Token.endOfText]) = .error .tooDeep := by
  have deep : maxNesting < (Tower.expr (maxNesting + 1)).nesting := by
    rw [Tower.nesting_expr]
    exact Nat.lt_succ_self _
  have stratified := Tower.stratified (maxNesting + 1)
  have spells := Tower.spells (maxNesting + 1)
  exact ⟨stratified, deep, spells, parseTokens_tooDeep stratified deep spells [Token.endOfText]⟩

end Spreadsheet.Formula
