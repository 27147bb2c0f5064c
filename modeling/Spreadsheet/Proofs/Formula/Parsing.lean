import Spreadsheet.Proofs.Address
import Spreadsheet.Proofs.Formula.Spelling

/-! The parser takes exactly the stratified expressions that do not nest too deeply, each off the
tokens that spell it. -/

namespace Spreadsheet.Formula

section

variable {tokens rest : List Token} {kind : TokenKind} {fault : ParseFault}

/-- Before the end of the text the next kind is that of a token. -/
theorem exists_cons_of_nextKind (next : nextKind tokens = kind) (more : kind ≠ .endOfText) :
    ∃ token, tokens = token :: tokens.drop 1 ∧ token.kind = kind := by
  cases tokens with
  | nil => exact absurd next.symm more
  | cons token rest => exact ⟨token, rfl, next⟩

/-- A token that is expected and found is taken off. -/
theorem exists_cons_of_expect (more : kind ≠ .endOfText)
    (found : expect kind fault tokens = .ok rest) :
    ∃ token, tokens = token :: rest ∧ token.kind = kind := by
  unfold expect at found
  split at found
  · rename_i next
    obtain ⟨token, split, same⟩ := exists_cons_of_nextKind next more
    rw [← Except.ok.inj found]
    exact ⟨token, split, same⟩
  · exact nomatch found

/-- A token of the expected kind is found. -/
theorem expect_cons {token : Token} (same : token.kind = kind) :
    expect kind fault (token :: rest) = .ok rest := by
  have next : nextKind (token :: rest) = kind := same
  rw [expect, if_pos next]
  rfl

/-- An operator of a layer stands at the start of a token list as a token that says it. -/
theorem exists_cons_of_operatorAt? {looseness : Nat} {op : BinaryOp}
    (found : operatorAt? looseness tokens = some op) :
    op.looseness = looseness ∧
      ∃ token, tokens = token :: tokens.drop 1 ∧ token.sign? = some (.mark op.kind) := by
  obtain ⟨stands, layer⟩ := Option.filter_eq_some_iff.mp found
  refine ⟨by simpa using layer, ?_⟩
  cases tokens with
  | nil => exact nomatch stands
  | cons token rest => exact ⟨token, rfl, Token.sign?_of_ofKind? stands⟩

end

/-- An expression that a layer may take with so much room: it is stratified, it holds together at
least as the layer does, and it nests less than there is room for. -/
structure Expr.Fits (looseness room : Nat) (expr : Expr) : Prop where
  stratified : expr.Stratified
  level : 5 ≤ expr.level + looseness
  nesting : expr.nesting < room

/-- Everything that is stratified and has room fits the loosest layer. -/
theorem Expr.fits_loosest {room : Nat} {expr : Expr} (stratified : expr.Stratified)
    (nesting : expr.nesting < room) : expr.Fits loosest room :=
  ⟨stratified, Nat.succ_le_of_lt (Nat.lt_add_of_pos_left expr.level_pos), nesting⟩

/-- A parser takes only expressions that fit, each off tokens that spell it. -/
def Parser.Sound (parser : Parser Expr) (looseness room : Nat) : Prop :=
  ∀ {tokens expr rest}, parser tokens = .ok (expr, rest) →
    ∃ taken, tokens = taken ++ rest ∧ Spells taken expr ∧ expr.Fits looseness room

section Soundness

variable {room : Nat} {tokens rest : List Token} {expr : Expr}

/-- What is read after a cell makes a reference to it or a range from it. -/
theorem afterCell_sound {first : Token} (kind : first.kind = .cell)
    (read : afterCell first.lexeme tokens = .ok (expr, rest)) :
    ∃ taken, tokens = taken ++ rest ∧ Spells (first :: taken) expr ∧ expr.Fits 0 (room + 1) := by
  have start : first.sign? = some (.cell first.lexeme) := by simp [Token.sign?, kind]
  unfold afterCell at read
  split at read
  · rename_i next
    -- Two dots have to be followed by another cell.
    obtain ⟨dots, split, dotsKind⟩ := exists_cons_of_nextKind next (by decide)
    generalize tokens.drop 1 = others at read split
    cases others with
    | nil => cases read
    | cons last others =>
      dsimp only at read
      split at read
      · rename_i lastKind
        obtain ⟨rfl, rfl⟩ := Prod.mk.inj (Except.ok.inj read)
        have between : dots.sign? = some (.mark .dotDot) := by simp [Token.sign?, dotsKind]
        have finish : last.sign? = some (.cell last.lexeme) := by simp [Token.sign?, lastKind]
        exact ⟨[dots, last], split, .cons start (.cons between (.cons finish .nil)),
          trivial, by simp [Expr.level], Nat.succ_pos _⟩
      · cases read
  · obtain ⟨rfl, rfl⟩ := Prod.mk.inj (Except.ok.inj read)
    exact ⟨[], rfl, .cons start .nil, trivial, by simp [Expr.level], Nat.succ_pos _⟩

/-- Where arguments are read there is one at least. -/
theorem ne_nil_of_argumentList {argument : Parser Expr} {bound : Nat} {args : List Expr}
    (read : argumentList argument bound tokens = .ok (args, rest)) : args ≠ [] := by
  -- The first argument is in the list whether or not a comma follows it.
  cases bound with
  | zero => cases read
  | succ bound =>
    obtain ⟨⟨arg, after⟩, _, onward⟩ := exists_ok_of_bind read
    dsimp only at onward
    split at onward
    · obtain ⟨⟨others, _⟩, _, done⟩ := exists_ok_of_bind onward
      obtain ⟨rfl, _⟩ := Prod.mk.inj (Except.ok.inj done)
      exact List.cons_ne_nil _ _
    · obtain ⟨rfl, _⟩ := Prod.mk.inj (Except.ok.inj onward)
      exact List.cons_ne_nil _ _

/-- Arguments that are read are spelled with commas between them, and each of them fits. -/
theorem argumentList_sound {argument : Parser Expr} (sound : argument.Sound loosest room)
    {bound : Nat} {args : List Expr}
    (read : argumentList argument bound tokens = .ok (args, rest)) :
    ∃ taken, tokens = taken ++ rest ∧ Tells taken (Expr.signsOfAll args) ∧
      ∀ arg ∈ args, arg.Fits loosest room := by
  -- The induction goes from one argument to those after the comma.
  induction bound generalizing tokens args with
  | zero => cases read
  | succ bound ih =>
    obtain ⟨⟨arg, after⟩, first, onward⟩ := exists_ok_of_bind read
    obtain ⟨taken, rfl, spells, fits⟩ := sound first
    dsimp only at onward
    split at onward
    · rename_i next
      obtain ⟨comma, split, kind⟩ := exists_cons_of_nextKind next (by decide)
      obtain ⟨⟨others, later⟩, more, done⟩ := exists_ok_of_bind onward
      obtain ⟨rfl, rfl⟩ := Prod.mk.inj (Except.ok.inj done)
      obtain ⟨takenMore, remains, told, allFit⟩ := ih more
      have mark : comma.sign? = some (.mark .comma) := by simp [Token.sign?, kind]
      refine ⟨taken ++ comma :: takenMore, ?_, ?_, List.forall_mem_cons.mpr ⟨fits, allFit⟩⟩
      · rw [List.append_assoc, List.cons_append, ← remains, ← split]
      · rw [Expr.signsOfAll_cons arg (ne_nil_of_argumentList more)]
        exact .append spells (.cons mark told)
    · obtain ⟨rfl, rfl⟩ := Prod.mk.inj (Except.ok.inj onward)
      refine ⟨taken, rfl, ?_, List.forall_mem_cons.mpr ⟨fits, List.forall_mem_nil _⟩⟩
      rw [Expr.signsOfAll_singleton]
      exact spells

/-- The arguments of a call are spelled in brackets, and each of them fits. -/
theorem callArguments_sound {argument : Parser Expr} (sound : argument.Sound loosest room)
    {args : List Expr} (read : callArguments argument tokens = .ok (args, rest)) :
    ∃ taken, tokens = taken ++ rest ∧
      Tells taken (.mark .parenLeft :: (Expr.signsOfAll args ++ [.mark .parenRight])) ∧
      ∀ arg ∈ args, arg.Fits loosest room := by
  obtain ⟨inside, opened, onward⟩ := exists_ok_of_bind read
  obtain ⟨start, rfl, startKind⟩ := exists_cons_of_expect (by decide) opened
  have startMark : start.sign? = some (.mark .parenLeft) := by simp [Token.sign?, startKind]
  dsimp only at onward
  -- Either the bracket closes at once, or there are arguments first.
  split at onward
  · rename_i next
    obtain ⟨finish, split, finishKind⟩ := exists_cons_of_nextKind next (by decide)
    obtain ⟨rfl, rfl⟩ := Prod.mk.inj (Except.ok.inj onward)
    have finishMark : finish.sign? = some (.mark .parenRight) := by simp [Token.sign?, finishKind]
    refine ⟨[start, finish], ?_, .cons startMark (.cons finishMark .nil), ?_⟩
    · rw [List.cons_append, List.cons_append, List.nil_append, ← split]
    · exact List.forall_mem_nil _
  · obtain ⟨⟨list, after⟩, listed, closing⟩ := exists_ok_of_bind onward
    obtain ⟨left, closed, done⟩ := exists_ok_of_bind closing
    obtain ⟨finish, same, finishKind⟩ := exists_cons_of_expect (by decide) closed
    obtain ⟨rfl, rfl⟩ := Prod.mk.inj (Except.ok.inj done)
    obtain ⟨taken, rfl, told, fits⟩ := argumentList_sound sound listed
    have finishMark : finish.sign? = some (.mark .parenRight) := by simp [Token.sign?, finishKind]
    refine ⟨start :: (taken ++ [finish]), ?_, ?_, fits⟩
    · rw [List.cons_append, List.append_assoc, List.singleton_append, ← same]
    · exact .cons startMark (.append told (.cons finishMark .nil))

/-- A number or a string says the value that is read off it. -/
theorem sign?_of_literalValue {token : Token} {value : Value}
    (kind : token.kind = .number ∨ token.kind = .string) (found : literalValue token = .ok value) :
    token.sign? = some (.value value) := by
  have payload : token.literal?.map Literal.value = some value := by
    unfold literalValue at found
    split at found <;> simp_all [Literal.value]
  obtain ⟨literal, stands, rfl⟩ := Option.map_eq_some_iff.mp payload
  rcases kind with kind | kind <;> simp [Token.sign?, kind, stands]

/-- A primary is spelled as it is read; what it holds is one level deeper. -/
theorem primary_sound {deeper : Parser Expr} (sound : deeper.Sound loosest room) :
    (primary deeper).Sound 0 (room + 1) := by
  intro tokens expr rest read
  cases tokens with
  | nil => cases read
  | cons token tokens =>
    -- A literal is one token, and nests no further.
    have literal : ∀ {value : Value}, token.sign? = some (.value value) →
        ∃ taken, token :: tokens = taken ++ tokens ∧ Spells taken (.literal value) ∧
          (Expr.literal value).Fits 0 (room + 1) := fun told =>
      ⟨[token], rfl, .cons told .nil, trivial, by simp [Expr.level], Nat.succ_pos _⟩
    simp only [primary] at read
    split at read
    case h_1 kind =>
      obtain ⟨value, found, done⟩ := exists_ok_of_bind read
      obtain ⟨rfl, rfl⟩ := Prod.mk.inj (Except.ok.inj done)
      exact literal (sign?_of_literalValue (.inl kind) found)
    case h_2 kind =>
      obtain ⟨value, found, done⟩ := exists_ok_of_bind read
      obtain ⟨rfl, rfl⟩ := Prod.mk.inj (Except.ok.inj done)
      exact literal (sign?_of_literalValue (.inr kind) found)
    case h_3 kind =>
      obtain ⟨rfl, rfl⟩ := Prod.mk.inj (Except.ok.inj read)
      exact literal (by simp [Token.sign?, kind])
    case h_4 kind =>
      obtain ⟨rfl, rfl⟩ := Prod.mk.inj (Except.ok.inj read)
      exact literal (by simp [Token.sign?, kind])
    case h_5 kind =>
      obtain ⟨taken, rfl, spells, fits⟩ := afterCell_sound kind read
      exact ⟨token :: taken, rfl, spells, fits⟩
    case h_6 kind =>
      -- A group is what its brackets hold.
      obtain ⟨⟨inner, after⟩, inside, closing⟩ := exists_ok_of_bind read
      obtain ⟨left, closed, done⟩ := exists_ok_of_bind closing
      obtain ⟨finish, same, finishKind⟩ := exists_cons_of_expect (by decide) closed
      obtain ⟨rfl, rfl⟩ := Prod.mk.inj (Except.ok.inj done)
      obtain ⟨taken, rfl, spells, fits⟩ := sound inside
      have start : token.sign? = some (.mark .parenLeft) := by simp [Token.sign?, kind]
      have ends : finish.sign? = some (.mark .parenRight) := by simp [Token.sign?, finishKind]
      refine ⟨token :: (taken ++ [finish]), ?_, ?_, ?_⟩
      · rw [List.cons_append, List.append_assoc, List.singleton_append, ← same]
      · exact .cons start (.append spells (.cons ends .nil))
      · exact ⟨fits.stratified, by simp [Expr.level], Nat.succ_lt_succ fits.nesting⟩
    case h_7 kind =>
      -- A call is its name and what its brackets hold.
      obtain ⟨⟨args, after⟩, called, done⟩ := exists_ok_of_bind read
      obtain ⟨rfl, rfl⟩ := Prod.mk.inj (Except.ok.inj done)
      obtain ⟨taken, rfl, told, fits⟩ := callArguments_sound sound called
      have name : token.sign? = some (.name token.lexeme) := by simp [Token.sign?, kind]
      have nested : Expr.nestingOfAll args ≤ room :=
        Expr.nestingOfAll_le_iff.mpr fun arg member => (fits arg member).nesting
      refine ⟨token :: taken, rfl, .cons name told, ?_, by simp [Expr.level],
        Nat.lt_succ_of_le nested⟩
      exact Expr.allStratified_iff.mpr fun arg member => (fits arg member).stratified
    case h_8 => cases read

/-- A layer reads what it may hold, given that what is a level deeper is read so. -/
theorem layer_sound {deeper : Nat → Parser Expr}
    (sound : ∀ looseness, (deeper looseness).Sound looseness room) (looseness : Nat) :
    (layer deeper looseness).Sound looseness (room + 1) := by
  -- Each layer reads the one below it, and goes on where an operator of its own follows.
  induction looseness with
  | zero =>
    intro tokens expr rest read
    simp only [layer] at read
    split at read
    · rename_i next
      obtain ⟨mark, split, kind⟩ := exists_cons_of_nextKind next (by decide)
      obtain ⟨⟨operand, after⟩, inside, done⟩ := exists_ok_of_bind read
      obtain ⟨rfl, rfl⟩ := Prod.mk.inj (Except.ok.inj done)
      obtain ⟨taken, remains, spells, fits⟩ := sound 0 inside
      have opposite : mark.sign? = some (.mark .exclamation) := by simp [Token.sign?, kind]
      refine ⟨mark :: taken, ?_, .cons opposite spells, ⟨fits.level, fits.stratified⟩,
        Nat.le_refl _, Nat.succ_lt_succ fits.nesting⟩
      rw [split, remains, List.cons_append]
    · exact primary_sound (sound loosest) read
  | succ looseness ih =>
    intro tokens expr rest read
    simp only [layer] at read
    obtain ⟨⟨left, after⟩, operand, onward⟩ := exists_ok_of_bind read
    obtain ⟨taken, rfl, spells, fits⟩ := ih operand
    dsimp only at onward
    split at onward
    · obtain ⟨rfl, rfl⟩ := Prod.mk.inj (Except.ok.inj onward)
      exact ⟨taken, rfl, spells, fits.stratified, Nat.le_succ_of_le fits.level, fits.nesting⟩
    · rename_i op found
      obtain ⟨binds, mark, split, said⟩ := exists_cons_of_operatorAt? found
      obtain ⟨⟨right, later⟩, other, done⟩ := exists_ok_of_bind onward
      obtain ⟨rfl, rfl⟩ := Prod.mk.inj (Except.ok.inj done)
      obtain ⟨takenMore, remains, rightSpells, rightFits⟩ := sound _ other
      dsimp only
      -- The level of an operator and the number of its layer make up five.
      have level := op.level_add_looseness
      have leftLevel := fits.level
      have rightLevel := rightFits.level
      refine ⟨taken ++ mark :: takenMore, ?_, .append spells (.cons said rightSpells),
        ⟨by omega, by omega, fits.stratified, rightFits.stratified⟩, ?_, ?_⟩
      · rw [List.append_assoc, List.cons_append, ← remains, ← split]
      · show 5 ≤ op.level + (looseness + 1)
        omega
      · exact Nat.max_lt.mpr ⟨fits.nesting, Nat.succ_lt_succ rightFits.nesting⟩

/-- With so much room a layer reads what fits. -/
theorem nested_sound (room looseness : Nat) : (nested room looseness).Sound looseness room := by
  -- Without room nothing is read at all.
  induction room generalizing looseness with
  | zero => exact fun read => nomatch read
  | succ room ih => exact layer_sound ih looseness

end Soundness

/-- Where a layer stops: no two dots follow, nor an operator of the layer or of one below it. -/
def Stops (looseness : Nat) (rest : List Token) : Prop :=
  nextKind rest ≠ .dotDot ∧
    ∀ op, BinaryOp.ofKind? (nextKind rest) = some op → looseness < op.looseness

/-- A parser takes every expression that fits off the tokens that spell it, if it stops there. -/
def Parser.Complete (parser : Parser Expr) (looseness room : Nat) : Prop :=
  ∀ {taken rest expr}, Spells taken expr → expr.Fits looseness room → Stops looseness rest →
    parser (taken ++ rest) = .ok (expr, rest)

section Completeness

variable {room : Nat} {taken rest : List Token} {expr : Expr}

/-- A layer that stops finds no operator of its own. -/
theorem Stops.operatorAt?_eq_none {looseness : Nat} (stops : Stops looseness rest) :
    operatorAt? looseness rest = none := by
  by_contra found
  obtain ⟨op, found⟩ := Option.ne_none_iff_exists'.mp found
  obtain ⟨stands, layer⟩ := Option.filter_eq_some_iff.mp found
  have looser := stops.2 op stands
  have same : op.looseness = looseness := by simpa using layer
  omega

/-- Where a layer stops, the ones below it stop, too. -/
theorem Stops.mono {looseness lower : Nat} (stops : Stops looseness rest)
    (below : lower ≤ looseness) : Stops lower rest :=
  ⟨stops.1, fun op stands => Nat.lt_of_le_of_lt below (stops.2 op stands)⟩

/-- Every layer stops before a mark that is no operator. -/
theorem stops_of_not_operator {looseness : Nat} {kind : TokenKind} (next : nextKind rest = kind)
    (other : BinaryOp.ofKind? kind = none) (dots : kind ≠ .dotDot) : Stops looseness rest := by
  subst next
  exact ⟨dots, fun op stands => by simp [other] at stands⟩

/-- A layer stops before an operator that is looser. -/
theorem stops_of_looser {looseness : Nat} {mark : Token} {op : BinaryOp}
    (said : mark.sign? = some (.mark op.kind)) (looser : looseness < op.looseness) :
    Stops looseness (mark :: rest) := by
  have kind : nextKind (mark :: rest) = op.kind := Token.kind_of_sign?_mark said
  refine ⟨?_, fun other stands => ?_⟩
  · rw [kind]
    cases op <;> decide
  · rw [kind, BinaryOp.ofKind?_kind, Option.some.injEq] at stands
    exact stands ▸ looser

/-- Arguments that are spelled where the last of them stops, and no comma follows, are read. -/
theorem argumentList_complete {argument : Parser Expr}
    (complete : argument.Complete loosest room) {args : List Expr} (some : args ≠ [])
    {bound : Nat} (enough : args.length ≤ bound) (told : Tells taken (Expr.signsOfAll args))
    (fits : ∀ arg ∈ args, arg.Fits loosest room) (stops : Stops loosest rest)
    (alone : nextKind rest ≠ .comma) :
    argumentList argument bound (taken ++ rest) = .ok (args, rest) := by
  -- The induction goes from one argument to those after the comma.
  induction args generalizing bound taken with
  | nil => exact absurd rfl some
  | cons arg others ih =>
    obtain ⟨bound, rfl⟩ := Nat.exists_eq_add_of_le' (Nat.le_trans (Nat.succ_pos _) enough)
    obtain ⟨firstFits, othersFit⟩ := List.forall_mem_cons.mp fits
    by_cases last : others = []
    · -- After the last argument there is nothing more to read.
      subst last
      rw [Expr.signsOfAll_singleton] at told
      have read := complete told firstFits stops
      rw [argumentList, read]
      simp [Bind.bind, Except.bind, Pure.pure, Except.pure, alone]
    · -- After any other one there is a comma, and no layer goes on there.
      rw [Expr.signsOfAll_cons arg last] at told
      obtain ⟨front, back, rfl, first, more⟩ := told.exists_append
      obtain ⟨comma, back, rfl, said, more⟩ := more.exists_cons
      have kind : nextKind (comma :: (back ++ rest)) = .comma := Token.kind_of_sign?_mark said
      have between : Stops loosest (comma :: (back ++ rest)) :=
        stops_of_not_operator kind rfl (by decide)
      have read := complete first firstFits between
      have readMore := ih last (Nat.le_of_succ_le_succ enough) more othersFit
      rw [List.append_assoc, List.cons_append, argumentList, read]
      simp [Bind.bind, Except.bind, Pure.pure, Except.pure, kind, readMore]

/-- The first token of an expression is of no kind whose mark the expression does not start
with. -/
theorem Spells.nextKind_ne (spells : Spells taken expr) {kind : TokenKind}
    (other : expr.signs.head? ≠ some (.mark kind))
    (marks : ∀ token : Token, token.kind = kind → token.sign? = some (.mark kind)) :
    nextKind (taken ++ rest) ≠ kind := by
  obtain ⟨token, others, sign, rfl, said, head⟩ := spells.exists_head
  intro first
  exact other (head.trans (said.symm.trans (marks token first)))

/-- The first token of some arguments is no closing bracket. -/
theorem nextKind_ne_parenRight {arg : Expr} {others : List Expr}
    (told : Tells taken (Expr.signsOfAll (arg :: others))) :
    nextKind (taken ++ rest) ≠ .parenRight := by
  obtain ⟨front, back, rfl, first, _⟩ := told.exists_append
  rw [List.append_assoc]
  exact Spells.nextKind_ne first arg.head?_signs_ne_parenRight
    fun token closes => by simp [Token.sign?, closes]

/-- Arguments that are spelled in brackets are read. -/
theorem callArguments_complete {argument : Parser Expr}
    (complete : argument.Complete loosest room) {args : List Expr}
    (told : Tells taken (.mark .parenLeft :: (Expr.signsOfAll args ++ [.mark .parenRight])))
    (fits : ∀ arg ∈ args, arg.Fits loosest room) :
    callArguments argument (taken ++ rest) = .ok (args, rest) := by
  obtain ⟨start, inside, rfl, opens, told⟩ := told.exists_cons
  obtain ⟨listed, finish, rfl, told, closes⟩ := told.exists_concat
  have finishKind : finish.kind = .parenRight := Token.kind_of_sign?_mark closes
  have opened : expect .parenLeft .unexpectedToken (start :: (listed ++ finish :: rest)) =
      .ok (listed ++ finish :: rest) := expect_cons (Token.kind_of_sign?_mark opens)
  have closed : expect .parenRight .missingParen (finish :: rest) = .ok rest :=
    expect_cons finishKind
  have split : start :: (listed ++ [finish]) ++ rest = start :: (listed ++ finish :: rest) := by
    simp
  rw [split, callArguments, opened]
  cases args with
  | nil =>
    -- Without arguments the brackets stand side by side.
    rw [told.eq_nil]
    have next : nextKind (finish :: rest) = .parenRight := finishKind
    simp [Bind.bind, Except.bind, Pure.pure, Except.pure, next]
  | cons arg others =>
    have next : nextKind (listed ++ finish :: rest) ≠ .parenRight := nextKind_ne_parenRight told
    -- There are no more arguments than tokens, so their number is no limit.
    have enough : (arg :: others).length ≤ (listed ++ finish :: rest).length + 1 := by
      have signs := Expr.length_le_signsOfAll (arg :: others)
      have same : listed.length = (Expr.signsOfAll (arg :: others)).length := by
        simpa using congrArg List.length told
      rw [List.length_append]
      omega
    have last : nextKind (finish :: rest) = .parenRight := finishKind
    have stops : Stops loosest (finish :: rest) := stops_of_not_operator last rfl (by decide)
    have alone : nextKind (finish :: rest) ≠ .comma := by
      rw [last]
      decide
    have read := argumentList_complete complete (List.cons_ne_nil arg others) enough told fits
      stops alone
    simp only [Bind.bind, Except.bind, Pure.pure, Except.pure, if_neg next, read, closed]

/-- A literal is read as the value that its token says. -/
theorem primary_of_value {deeper : Parser Expr} {token : Token} {value : Value}
    (said : token.sign? = some (.value value)) :
    primary deeper (token :: rest) = .ok (.literal value, rest) := by
  -- A number or a string that says something stands for it.
  have payload : ∀ literal, token.literal? = some literal →
      literalValue token = .ok literal.value := by
    intro literal stands
    unfold literalValue
    rw [stands]
    cases literal <;> rfl
  cases kind : token.kind with
  | number | string =>
    simp only [Token.sign?, kind, Option.map_eq_some_iff, Sign.value.injEq] at said
    obtain ⟨literal, stands, rfl⟩ := said
    simp [primary, kind, payload literal stands, Bind.bind, Except.bind, Pure.pure, Except.pure]
  | trueWord | falseWord =>
    simp only [Token.sign?, kind, Option.some.injEq, Sign.value.injEq] at said
    simp [primary, kind, said]
  | _ => simp [Token.sign?, kind] at said

/-- A cell is read as a reference where no two dots follow it. -/
theorem primary_of_cell {deeper : Parser Expr} {token : Token} {text : String}
    (said : token.sign? = some (.cell text)) (stops : nextKind rest ≠ .dotDot) :
    primary deeper (token :: rest) = .ok (.cell text, rest) := by
  obtain ⟨kind, rfl⟩ := Token.cell_of_sign? said
  simp [primary, kind, afterCell, stops]

/-- Two cells with two dots between them are read as a range. -/
theorem primary_of_range {deeper : Parser Expr} {first dots last : Token} {start finish : String}
    (firstSaid : first.sign? = some (.cell start)) (dotsSaid : dots.sign? = some (.mark .dotDot))
    (lastSaid : last.sign? = some (.cell finish)) :
    primary deeper (first :: dots :: last :: rest) = .ok (.range start finish, rest) := by
  obtain ⟨firstKind, rfl⟩ := Token.cell_of_sign? firstSaid
  obtain ⟨lastKind, rfl⟩ := Token.cell_of_sign? lastSaid
  have next : nextKind (dots :: last :: rest) = .dotDot := Token.kind_of_sign?_mark dotsSaid
  simp [primary, firstKind, afterCell, next, lastKind]

/-- An expression without an operator outside of brackets is read as a primary. -/
theorem primary_complete {deeper : Parser Expr} (complete : deeper.Complete loosest room)
    (spells : Spells taken expr) (whole : expr.level = 6) (fits : expr.Fits 0 (room + 1))
    (stops : Stops 0 rest) : primary deeper (taken ++ rest) = .ok (expr, rest) := by
  unfold Spells at spells
  -- The first sign decides which primary is read, so the cases are those of the expression.
  cases expr with
  | literal value =>
    obtain ⟨token, others, rfl, said, nothing⟩ := spells.exists_cons
    rw [nothing.eq_nil]
    exact primary_of_value said
  | cell text =>
    obtain ⟨token, others, rfl, said, nothing⟩ := spells.exists_cons
    rw [nothing.eq_nil]
    exact primary_of_cell said stops.1
  | range start finish =>
    obtain ⟨first, others, rfl, firstSaid, more⟩ := spells.exists_cons
    obtain ⟨dots, others, rfl, dotsSaid, more⟩ := more.exists_cons
    obtain ⟨last, others, rfl, lastSaid, nothing⟩ := more.exists_cons
    rw [nothing.eq_nil]
    exact primary_of_range firstSaid dotsSaid lastSaid
  | binary op left right => cases op <;> simp [Expr.level, BinaryOp.level] at whole
  | negation operand => simp [Expr.level] at whole
  | group inner =>
    obtain ⟨start, others, rfl, opens, more⟩ := spells.exists_cons
    obtain ⟨inside, finish, rfl, told, closes⟩ := more.exists_concat
    have startKind : start.kind = .parenLeft := Token.kind_of_sign?_mark opens
    have finishKind : nextKind (finish :: rest) = .parenRight := Token.kind_of_sign?_mark closes
    -- Within the brackets there is one level less, and what is inside ends where they close.
    have innerFits : inner.Fits loosest room :=
      Expr.fits_loosest fits.stratified (Nat.lt_of_succ_lt_succ fits.nesting)
    have innerStops : Stops loosest (finish :: rest) :=
      stops_of_not_operator finishKind rfl (by decide)
    have read := complete told innerFits innerStops
    have closed : expect .parenRight .missingParen (finish :: rest) = .ok rest :=
      expect_cons finishKind
    rw [List.cons_append, List.append_assoc, List.singleton_append]
    simp only [primary, startKind, read, closed, Bind.bind, Except.bind, Pure.pure, Except.pure]
  | call name args =>
    obtain ⟨word, others, rfl, said, told⟩ := spells.exists_cons
    obtain ⟨kind, rfl⟩ := Token.identifier_of_sign? said
    -- A call is no level of its own, but each of its arguments is one.
    have stratified := Expr.allStratified_iff.mp fits.stratified
    have nesting := Expr.nestingOfAll_le_iff.mp (Nat.le_of_lt_succ fits.nesting)
    have read : callArguments deeper (others ++ rest) = .ok (args, rest) :=
      callArguments_complete complete told fun arg member =>
        Expr.fits_loosest (stratified arg member) (nesting arg member)
    simp only [List.cons_append, primary, kind, read, Bind.bind, Except.bind, Pure.pure,
      Except.pure]

/-- A layer reads every expression that fits, given that what is a level deeper is read so. -/
theorem layer_complete {deeper : Nat → Parser Expr}
    (complete : ∀ looseness ≤ loosest, (deeper looseness).Complete looseness room)
    {looseness : Nat} (layered : looseness ≤ loosest) :
    (layer deeper looseness).Complete looseness (room + 1) := by
  -- An expression that holds together tighter than the layer is left to the layer below.
  induction looseness with
  | zero =>
    intro taken rest expr spells fits stops
    by_cases whole : expr.level = 6
    · have other : nextKind (taken ++ rest) ≠ .exclamation :=
        spells.nextKind_ne (Expr.head?_signs_ne_exclamation whole)
          fun token opposite => by simp [Token.sign?, opposite]
      simp only [layer, if_neg other]
      exact primary_complete (complete loosest (Nat.le_refl _)) spells whole fits stops
    · have level := fits.level
      cases expr with
      | negation operand =>
        obtain ⟨mark, others, rfl, said, told⟩ := Tells.exists_cons spells
        have kind : nextKind (mark :: (others ++ rest)) = .exclamation :=
          Token.kind_of_sign?_mark said
        have operandFits : operand.Fits 0 room :=
          ⟨fits.stratified.2, fits.stratified.1, Nat.lt_of_succ_lt_succ fits.nesting⟩
        have read := complete 0 (Nat.zero_le _) told operandFits stops
        simp only [List.cons_append, layer, if_pos kind, List.drop_one, List.tail_cons, read,
          Bind.bind, Except.bind, Pure.pure, Except.pure]
      | binary op left right => cases op <;> simp [Expr.level, BinaryOp.level] at level
      | literal _ | cell _ | range _ _ | group _ | call _ _ => exact absurd rfl whole
  | succ looseness ih =>
    intro taken rest expr spells fits stops
    have below : (layer deeper looseness).Complete looseness (room + 1) :=
      ih (Nat.le_of_succ_le layered)
    by_cases tighter : 5 ≤ expr.level + looseness
    · have read := below spells ⟨fits.stratified, tighter, fits.nesting⟩
        (stops.mono (Nat.le_succ _))
      have none := stops.operatorAt?_eq_none
      simp only [layer, read, none, Bind.bind, Except.bind, Pure.pure, Except.pure]
    · have level := fits.level
      have bound : loosest = 4 := rfl
      cases expr with
      | binary op left right =>
        -- Only an operator of this very layer holds together just as the layer does.
        obtain ⟨leftLevel, rightLevel, leftStratified, rightStratified⟩ := fits.stratified
        have nesting := Nat.max_lt.mp fits.nesting
        have layers := op.level_add_looseness
        simp only [Expr.level] at level tighter
        obtain ⟨front, back, rfl, leftSpells, told⟩ := Tells.exists_append spells
        obtain ⟨mark, back, rfl, said, rightSpells⟩ := told.exists_cons
        have leftStops : Stops looseness (mark :: (back ++ rest)) :=
          stops_of_looser said (by omega)
        have leftRead := below leftSpells ⟨leftStratified, by omega, nesting.1⟩ leftStops
        have rightRead := complete (looseness + 1) layered rightSpells
          ⟨rightStratified, by omega, Nat.lt_of_succ_lt_succ nesting.2⟩ stops
        have kind : nextKind (mark :: (back ++ rest)) = op.kind := Token.kind_of_sign?_mark said
        have found : operatorAt? (looseness + 1) (mark :: (back ++ rest)) = some op := by
          have same : op.looseness = looseness + 1 := by omega
          simp [operatorAt?, kind, same]
        rw [List.append_assoc, List.cons_append]
        simp only [layer, leftRead, found, List.drop_one, List.tail_cons, rightRead, Bind.bind,
          Except.bind, Pure.pure, Except.pure]
      | literal _ | cell _ | range _ _ | negation _ | group _ | call _ _ =>
        simp only [Expr.level] at tighter
        omega

/-- With so much room a layer reads every expression that fits. -/
theorem nested_complete (room : Nat) {looseness : Nat} (layered : looseness ≤ loosest) :
    (nested room looseness).Complete looseness room := by
  -- Without room there is nothing to read.
  induction room generalizing looseness with
  | zero => exact fun _ fits _ => absurd fits.nesting (Nat.not_lt_zero _)
  | succ room ih => exact layer_complete (fun _ => ih) layered

end Completeness

/-- Two ways to part a token list before its end are the same. -/
theorem eq_of_append_eq {tokens ending taken rest : List Token}
    (inside : ∀ token ∈ tokens, token.kind ≠ .endOfText)
    (takenInside : ∀ token ∈ taken, token.kind ≠ .endOfText)
    (ends : ∀ token ∈ ending, token.kind = .endOfText) (restEnds : nextKind rest = .endOfText)
    (split : tokens ++ ending = taken ++ rest) : tokens = taken := by
  -- Whatever stood in one of the two lists only would end the text and be before its end.
  rcases List.append_eq_append_iff.mp split with ⟨more, rfl, rfl⟩ | ⟨more, rfl, rfl⟩
  · cases more with
    | nil => exact (List.append_nil tokens).symm
    | cons token others =>
      have early := takenInside token (List.mem_append_right _ List.mem_cons_self)
      exact absurd (ends token (List.mem_append_left _ List.mem_cons_self)) early
  · cases more with
    | nil => exact List.append_nil taken
    | cons token others =>
      exact absurd restEnds (inside token (List.mem_append_right _ List.mem_cons_self))

/-- Tokens up to the end of the text are read as an expression exactly if the expression is
stratified, nests no deeper than is allowed, and is spelled by the tokens. -/
theorem parseTokens_eq_ok_iff {tokens ending : List Token}
    (inside : ∀ token ∈ tokens, token.kind ≠ .endOfText)
    (ends : ending = [] ∨ ∃ last, last.kind = .endOfText ∧ ending = [last]) (expr : Expr) :
    parseTokens (tokens ++ ending) = .ok expr ↔
      expr.Stratified ∧ expr.nesting ≤ maxNesting ∧ Spells tokens expr := by
  have endingEnds : nextKind ending = .endOfText ∧ ∀ token ∈ ending, token.kind = .endOfText := by
    rcases ends with rfl | ⟨last, kind, rfl⟩
    · exact ⟨rfl, fun _ member => nomatch member⟩
    · exact ⟨kind, fun token member => List.mem_singleton.mp member ▸ kind⟩
  constructor
  · intro parsed
    obtain ⟨⟨read, rest⟩, found, done⟩ := exists_ok_of_bind parsed
    obtain ⟨taken, split, spells, fits⟩ := nested_sound _ _ found
    dsimp only at done
    split at done
    · rename_i restEnds
      obtain rfl := Except.ok.inj done
      -- What is read are all the tokens, as none of them ends the text.
      have same :=
        eq_of_append_eq inside (Tells.kind_ne_endOfText spells) endingEnds.2 restEnds split
      exact ⟨fits.stratified, Nat.le_of_lt_succ fits.nesting, same ▸ spells⟩
    · exact nomatch done
  · intro meets
    obtain ⟨stratified, nesting, spells⟩ := meets
    -- No operator stands at the end of the text, so that the loosest layer reads up to it.
    have stops : Stops loosest ending := stops_of_not_operator endingEnds.1 rfl (by decide)
    have read := nested_complete (maxNesting + 1) (Nat.le_refl _) spells
      (Expr.fits_loosest stratified (Nat.lt_succ_of_le nesting)) stops
    unfold parseTokens
    rw [read]
    show (if nextKind ending = .endOfText then _ else _) = _
    rw [if_pos endingEnds.1]
    rfl

/-- The tokens of `!A1=sum(B1..B2,True)-"2"-"1"`. -/
def mixedTokens : List Token :=
  [.plain .exclamation ['!'], .plain .cell ['A', '1'], .plain .equal ['='],
    .plain .identifier ['s', 'u', 'm'], .plain .parenLeft ['('], .plain .cell ['B', '1'],
    .plain .dotDot ['.', '.'], .plain .cell ['B', '2'], .plain .comma [','],
    .plain .trueWord ['T', 'r', 'u', 'e'], .plain .parenRight [')'], .plain .minus ['-'],
    ⟨.string, "\"2\"", some (.text "2")⟩, .plain .minus ['-'], ⟨.string, "\"1\"", some (.text "1")⟩]

/-- The expression of these tokens: the differences are grouped to the right. -/
def mixedExpr : Expr :=
  .binary .equal (.negation (.cell "A1"))
    (.binary .subtract (.call "sum" [.range "B1" "B2", .literal (.boolean true)])
      (.binary .subtract (.literal (.text "2")) (.literal (.text "1"))))

/-- The tokens are read as the expression, as it is stratified and they spell it. -/
theorem parseTokens_mixedTokens :
    (∀ token ∈ mixedTokens, token.kind ≠ .endOfText) ∧
      parseTokens (mixedTokens ++ [Token.endOfText]) = .ok mixedExpr := by
  have inside : ∀ token ∈ mixedTokens, token.kind ≠ .endOfText := by decide
  refine ⟨inside, (parseTokens_eq_ok_iff inside (.inr ⟨Token.endOfText, rfl, rfl⟩) mixedExpr).mpr
    ⟨?_, ?_, rfl⟩⟩
  · simp [mixedExpr, Expr.Stratified, Expr.AllStratified, Expr.level, BinaryOp.level]
  · decide

end Spreadsheet.Formula
