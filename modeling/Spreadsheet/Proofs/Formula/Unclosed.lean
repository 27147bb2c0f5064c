import Spreadsheet.Proofs.Formula.Descent

/-! Expressions that are cut before some of the brackets that close them: the bracket is what the
parser misses, except where the last thing left is the opening bracket of an empty call. -/

namespace Spreadsheet.Formula

mutual

/-- How many levels of nesting lead to the last thing in an expression. -/
def Expr.lastNesting : Expr → Nat
  | .literal _ | .cell _ | .range _ _ => 0
  | .binary _ _ right => right.lastNesting + 1
  | .negation operand => operand.lastNesting + 1
  | .group inner => inner.lastNesting + 1
  | .call _ args => Expr.lastNestingOfAll args

/-- How many levels of nesting lead to the last thing in some arguments. -/
def Expr.lastNestingOfAll : List Expr → Nat
  | [] => 0
  | expr :: rest => if rest.isEmpty then expr.lastNesting + 1 else lastNestingOfAll rest

end

/-- Tokens that end with an opening bracket. -/
def EndsOpen (tokens : List Token) : Prop :=
  tokens.getLast?.map Token.kind = some .parenLeft

instance : DecidablePred EndsOpen := fun _ => inferInstanceAs (Decidable (_ = _))

/-- Tokens that are closing brackets, all of them. -/
def Closing (tokens : List Token) : Prop :=
  ∀ token ∈ tokens, token.kind = .parenRight

/-- What is missed at the end of tokens that closing brackets have been cut off from, where so many
levels of nesting lead and there is room for so many. -/
def cutFault (tokens : List Token) (levels room : Nat) : ParseFault :=
  -- The bracket of a call may be followed by an argument, which nests a level deeper.
  if EndsOpen tokens then if levels < room then .unexpectedToken else .tooDeep
  else .missingParen

section Cutting

variable {front closing ending : List Token} {expr : Expr} {first second : List Sign} {sign : Sign}
  {levels room : Nat}

/-- Tokens end as the last of them do. -/
theorem endsOpen_append (before : List Token) (more : front ≠ []) :
    EndsOpen (before ++ front) ↔ EndsOpen front := by
  rw [EndsOpen, List.getLast?_append_of_ne_nil _ more, EndsOpen]

/-- What is missed does not depend on what stands before the last tokens. -/
theorem cutFault_append (before : List Token) (token : Token) (more : front ≠ []) :
    cutFault (before ++ token :: front) levels room = cutFault front levels room := by
  have split := List.append_cons before token front
  simp only [cutFault, split, endsOpen_append _ more]

/-- What is missed depends on how many levels there is room for beyond those that lead there. -/
theorem cutFault_succ : cutFault front (levels + 1) (room + 1) = cutFault front levels room := by
  simp only [cutFault, Nat.add_lt_add_iff_right]

/-- No expression ends with an opening bracket. -/
theorem Expr.getLast?_signs_ne_parenLeft :
    ∀ expr : Expr, expr.signs.getLast? ≠ some (.mark .parenLeft)
  | .binary _ _ right => by
    have finish := right.getLast?_signs_ne_parenLeft
    rwa [Expr.signs, List.getLast?_append_of_ne_nil _ (List.cons_ne_nil _ _),
      List.getLast?_cons_of_ne_nil right.signs_ne_nil]
  | .negation operand => by
    have finish := operand.getLast?_signs_ne_parenLeft
    rwa [Expr.signs, List.getLast?_cons_of_ne_nil operand.signs_ne_nil]
  | .literal _ | .cell _ | .range _ _ | .group _ | .call _ _ => by
    simp [Expr.signs, List.getLast?_cons]

/-- No arguments end with an opening bracket. -/
theorem Expr.getLast?_signsOfAll_ne_parenLeft (args : List Expr) :
    (Expr.signsOfAll args).getLast? ≠ some (.mark .parenLeft) := by
  -- The last argument ends them all.
  induction args with
  | nil => simp [Expr.signsOfAll]
  | cons arg rest ih =>
    by_cases last : rest = []
    · rw [last, Expr.signsOfAll_singleton]
      exact arg.getLast?_signs_ne_parenLeft
    · obtain ⟨next, others, rfl⟩ := List.exists_cons_of_ne_nil last
      have more : Expr.signsOfAll (next :: others) ≠ [] := by
        simp [Expr.signsOfAll, next.signs_ne_nil]
      rwa [Expr.signsOfAll_cons arg last, List.getLast?_append_of_ne_nil _ (List.cons_ne_nil _ _),
        List.getLast?_cons_of_ne_nil more]

/-- Tokens that say no opening bracket at last do not end with one. -/
theorem Tells.not_endsOpen (told : Tells front first)
    (other : first.getLast? ≠ some (.mark .parenLeft)) : ¬ EndsOpen front := by
  intro ends
  obtain ⟨last, found, kind⟩ := Option.map_eq_some_iff.mp ends
  -- The last token says the last sign.
  have said : last.sign? = some (.mark .parenLeft) := by simp [Token.sign?, kind]
  have same : (front.map Token.sign?).getLast? = (first.map some).getLast? := congrArg _ told
  rw [List.getLast?_map, List.getLast?_map, found, Option.map_some, said] at same
  obtain ⟨sign, ends, rest⟩ := Option.map_eq_some_iff.mp same.symm
  exact other (ends.trans rest)

/-- A closing bracket says just that. -/
theorem Token.sign?_of_parenRight {token : Token} (kind : token.kind = .parenRight) :
    token.sign? = some (.mark .parenRight) := by
  simp [Token.sign?, kind]

/-- Where closing brackets are cut off, any other sign is still said by what is left. -/
theorem Tells.exists_of_cut (told : Tells (front ++ closing) (first ++ sign :: second))
    (brackets : Closing closing) (other : sign ≠ .mark .parenRight) :
    ∃ before token after, front = before ++ token :: after ∧ Tells before first ∧
      token.sign? = some sign ∧ Tells (after ++ closing) second := by
  obtain ⟨before, rest, split, left, more⟩ := told.exists_append
  obtain ⟨token, rest, rfl, said, right⟩ := more.exists_cons
  -- The token that says the sign is not among the brackets.
  have outside : token ∉ closing := by
    intro member
    have bracket := Token.sign?_of_parenRight (brackets token member)
    exact other (Option.some.inj (said.symm.trans bracket))
  rcases List.append_eq_append_iff.mp split with ⟨more, rfl, late⟩ | ⟨more, rfl, early⟩
  · exact absurd (late ▸ List.mem_append_right _ List.mem_cons_self) outside
  · cases more with
    | nil =>
      rw [List.nil_append] at early
      exact absurd (early ▸ List.mem_cons_self) outside
    | cons next after =>
      obtain ⟨rfl, rfl⟩ := List.cons.inj early
      exact ⟨before, token, after, rfl, left, said, right⟩

/-- Where closing brackets are cut off, the first sign is still said if it is any other. -/
theorem Tells.exists_cons_of_cut (told : Tells (front ++ closing) (sign :: second))
    (brackets : Closing closing) (other : sign ≠ .mark .parenRight) :
    ∃ token after, front = token :: after ∧ token.sign? = some sign ∧
      Tells (after ++ closing) second := by
  have behind : Tells (front ++ closing) ([] ++ sign :: second) := told
  obtain ⟨before, token, after, rfl, nothing, said, more⟩ := behind.exists_of_cut brackets other
  obtain rfl := nothing.eq_nil
  exact ⟨token, after, rfl, said, more⟩

/-- Where the last sign is no closing bracket, none can be cut off. -/
theorem Tells.eq_nil_of_cut (first : List Sign) (told : Tells (front ++ closing) (first ++ [sign]))
    (brackets : Closing closing) (other : sign ≠ .mark .parenRight) : closing = [] := by
  obtain ⟨_, _, after, _, _, _, nothing⟩ := told.exists_of_cut brackets other
  exact (List.append_eq_nil_iff.mp nothing.eq_nil).2

/-- A closing bracket that comes last is the last of those that are cut off. -/
theorem Tells.exists_of_unclosed (told : Tells (front ++ closing) (first ++ [sign]))
    (cut : closing ≠ []) :
    ∃ inside last, closing = inside ++ [last] ∧ Tells (front ++ inside) first := by
  obtain ⟨inside, last, rfl⟩ := (List.eq_nil_or_concat closing).resolve_left cut
  obtain ⟨others, final, split, rest, _⟩ := told.exists_concat
  rw [List.concat_eq_append, ← List.append_assoc] at split
  obtain ⟨rfl, _⟩ := List.append_inj' split rfl
  exact ⟨inside, last, List.concat_eq_append, rest⟩

/-- An expression starts with a sign that is no closing bracket. -/
theorem Expr.exists_first_sign (expr : Expr) :
    ∃ sign rest, expr.signs = sign :: rest ∧ sign ≠ .mark .parenRight := by
  obtain ⟨sign, rest, split⟩ := List.exists_cons_of_ne_nil expr.signs_ne_nil
  refine ⟨sign, rest, split, fun bracket => expr.head?_signs_ne_parenRight ?_⟩
  rw [split, bracket]
  rfl

/-- Arguments start with a sign that is no closing bracket, if there are any. -/
theorem Expr.exists_first_sign_of_all (arg : Expr) (others : List Expr) :
    ∃ sign rest, Expr.signsOfAll (arg :: others) = sign :: rest ∧ sign ≠ .mark .parenRight := by
  obtain ⟨sign, rest, split, other⟩ := arg.exists_first_sign
  exact ⟨sign, _, by rw [Expr.signsOfAll, split, List.cons_append], other⟩

/-- Where closing brackets are cut off, what starts with another sign is not all cut off, and still
starts with no closing bracket. -/
theorem Tells.of_cut (ending : List Token) (told : Tells (front ++ closing) first)
    (brackets : Closing closing)
    (starts : ∃ sign rest, first = sign :: rest ∧ sign ≠ .mark .parenRight) :
    front ≠ [] ∧ nextKind (front ++ ending) ≠ .parenRight := by
  obtain ⟨sign, rest, rfl, other⟩ := starts
  obtain ⟨token, after, rfl, said, _⟩ := told.exists_cons_of_cut brackets other
  refine ⟨List.cons_ne_nil _ _, fun kind => other ?_⟩
  exact Option.some.inj (said.symm.trans (Token.sign?_of_parenRight kind))

/-- No expression starts at the end of the text. -/
theorem nested_endOfText {looseness : Nat} (ends : nextKind ending = .endOfText) :
    nested (room + 1) looseness ending = .error .unexpectedToken := by
  refine nested_eq_error_of_le (Nat.zero_le looseness) ?_
  have other : nextKind ending ≠ .exclamation := by simp [ends]
  show layer (nested room) 0 ending = _
  simp only [layer, if_neg other]
  cases ending with
  | nil => rfl
  | cons token rest =>
    have kind : token.kind = .endOfText := ends
    simp [primary, kind]

/-- An expression is read up to the end of the text. -/
theorem nested_whole (stratified : expr.Stratified) (nesting : expr.nesting < room)
    (spells : Spells front expr) (ends : nextKind ending = .endOfText) :
    nested room loosest (front ++ ending) = .ok (expr, ending) := by
  have stops : Stops loosest ending := stops_of_not_operator ends rfl (by decide)
  exact nested_complete room (Nat.le_refl _) spells (Expr.fits_loosest stratified nesting) stops

/-- Arguments are read up to the end of the text. -/
theorem argumentList_whole {args : List Expr} (given : args ≠ [])
    (stratified : Expr.AllStratified args) (nesting : Expr.nestingOfAll args ≤ room)
    (told : Tells front (Expr.signsOfAll args)) (ends : nextKind ending = .endOfText) :
    argumentList (nested room loosest) ((front ++ ending).length + 1) (front ++ ending) =
      .ok (args, ending) := by
  have fits : ∀ arg ∈ args, arg.Fits loosest room := fun arg member =>
    Expr.fits_loosest (Expr.allStratified_iff.mp stratified arg member)
      (Expr.nestingOfAll_le_iff.mp nesting arg member)
  -- There are no more arguments than tokens.
  have enough : args.length ≤ (front ++ ending).length + 1 := by
    have signs := Expr.length_le_signsOfAll args
    have same : front.length = (Expr.signsOfAll args).length := by
      simpa using congrArg List.length told
    rw [List.length_append]
    omega
  have stops : Stops loosest ending := stops_of_not_operator ends rfl (by decide)
  have alone : nextKind ending ≠ .comma := by simp [ends]
  exact argumentList_complete (nested_complete room (Nat.le_refl _)) given enough told fits stops
    alone

/-- A closing bracket is missed where the text ends. -/
theorem expect_endOfText (ends : nextKind ending = .endOfText) :
    expect .parenRight .missingParen ending = .error .missingParen := by
  simp [expect, ends]

/-- A group is missed its bracket where the text ends after what it holds. -/
theorem nested_group_missing {start : Token} {tokens : List Token}
    (opens : start.sign? = some (.mark .parenLeft))
    (read : nested room loosest tokens = .ok (expr, ending))
    (ends : nextKind ending = .endOfText) :
    nested (room + 1) 0 (start :: tokens) = .error .missingParen := by
  rw [nested_group opens, read]
  show (expect .parenRight .missingParen ending >>= _) = _
  rw [expect_endOfText ends]
  rfl

section Calls

variable {word start : Token} {name : String} (said : word.sign? = some (.name name))
  (opens : start.sign? = some (.mark .parenLeft))

include said opens

/-- A call is missed its bracket where the text ends after its arguments. -/
theorem nested_call_missing {tokens : List Token} {args : List Expr}
    (more : nextKind tokens ≠ .parenRight)
    (read : argumentList (nested room loosest) (tokens.length + 1) tokens = .ok (args, ending))
    (ends : nextKind ending = .endOfText) :
    nested (room + 1) 0 (word :: start :: tokens) = .error .missingParen := by
  rw [nested_call said opens more, read]
  show (expect .parenRight .missingParen ending >>= _) = _
  rw [expect_endOfText ends]
  rfl

/-- A call is missed an argument where the text ends after the bracket that opens it, or there is
no room for one. -/
theorem nested_call_empty (ends : nextKind ending = .endOfText) :
    nested (room + 1) 0 (word :: start :: ending) = .error (cutFault [word, start] 0 room) := by
  have kind : start.kind = .parenLeft := Token.kind_of_sign?_mark opens
  have more : nextKind ending ≠ .parenRight := by simp [ends]
  -- An argument is looked for, which there is no room for or which the text ends before.
  have fails : nested room loosest ending = .error (cutFault [word, start] 0 room) := by
    cases room with
    | zero => simp [nested, cutFault, EndsOpen, kind]
    | succ room =>
      rw [nested_endOfText ends]
      simp [cutFault, EndsOpen, kind]
  rw [nested_call said opens more, argumentList_eq_error fails]
  rfl

end Calls

end Cutting

section Unclosed

variable {left right operand inner arg : Expr} {args others : List Expr} {name : String}

/-- Reading an expression that is cut before some of the brackets that close it stops where the text
then ends. -/
def Expr.StopsUnclosed (expr : Expr) : Prop :=
  ∀ (room looseness : Nat) (front closing ending : List Token), expr.Stratified →
    5 ≤ expr.level + looseness → expr.nesting ≤ room → Spells (front ++ closing) expr →
    Closing closing → closing ≠ [] → nextKind ending = .endOfText →
    nested (room + 1) looseness (front ++ ending) = .error (cutFault front expr.lastNesting room)

/-- Reading arguments that are cut before some closing brackets stops where the text then ends. -/
def Expr.AllStopUnclosed (args : List Expr) : Prop :=
  ∀ (room bound : Nat) (front closing ending : List Token), args ≠ [] →
    Expr.AllStratified args → Expr.nestingOfAll args ≤ room →
    Tells (front ++ closing) (Expr.signsOfAll args) → Closing closing → closing ≠ [] →
    nextKind ending = .endOfText → (front ++ ending).length < bound →
    argumentList (nested room loosest) bound (front ++ ending) =
      .error (cutFault front (Expr.lastNestingOfAll args) room)

namespace Expr.StopsUnclosed

/-- An expression that ends with another sign than a closing bracket is not cut before one. -/
theorem of_last {expr : Expr} (first : List Sign) {sign : Sign}
    (signs : expr.signs = first ++ [sign]) (other : sign ≠ .mark .parenRight) :
    expr.StopsUnclosed := by
  intro room looseness front closing ending _ _ _ spells brackets cut _
  rw [Spells, signs] at spells
  exact absurd (Tells.eq_nil_of_cut first spells brackets other) cut

/-- An operation is cut in its right operand, a level further down. -/
theorem binary (op : BinaryOp) (left : Expr) (rightStops : right.StopsUnclosed) :
    (Expr.binary op left right).StopsUnclosed := by
  intro room looseness front closing ending stratified level nesting spells brackets cut ends
  obtain ⟨leftLevel, rightLevel, leftStratified, rightStratified⟩ := stratified
  have levels := op.level_add_looseness
  have layers := BinaryOp.looseness_le level
  obtain ⟨leftNesting, rightNesting⟩ := Nat.max_le.mp nesting
  obtain ⟨room, rfl⟩ := Nat.exists_eq_add_of_le' (Nat.le_trans (Nat.succ_pos _) rightNesting)
  have other : Sign.mark op.kind ≠ .mark .parenRight := by cases op <;> simp [BinaryOp.kind]
  obtain ⟨before, mark, after, rfl, leftSpells, said, rightSpells⟩ :=
    Tells.exists_of_cut spells brackets other
  have more := (rightSpells.of_cut [] brackets right.exists_first_sign).1
  -- The operator is no bracket, so what is cut off belongs to the right operand.
  have fails := rightStops room op.looseness after closing ending rightStratified (by omega)
    (Nat.le_of_succ_le_succ rightNesting) rightSpells brackets cut ends
  refine nested_eq_error_of_le layers ?_
  rw [cutFault_append before mark more, Expr.lastNesting, cutFault_succ, List.append_assoc,
    List.cons_append, nested_binary leftLevel leftStratified leftNesting leftSpells said, fails]
  rfl

/-- A negation is cut in its operand. -/
theorem negation (operandStops : operand.StopsUnclosed) :
    (Expr.negation operand).StopsUnclosed := by
  intro room looseness front closing ending stratified _ nesting spells brackets cut ends
  obtain ⟨operandLevel, operandStratified⟩ := stratified
  obtain ⟨room, rfl⟩ := Nat.exists_eq_add_of_le' (Nat.le_trans (Nat.succ_pos _) nesting)
  obtain ⟨mark, after, rfl, said, told⟩ := Tells.exists_cons_of_cut spells brackets (by simp)
  have more := (told.of_cut [] brackets operand.exists_first_sign).1
  -- There is one level less to go in the operand, and room for one less.
  have fails := operandStops room 0 after closing ending operandStratified operandLevel
    (Nat.le_of_succ_le_succ nesting) told brackets cut ends
  have fault : cutFault (mark :: after) (operand.lastNesting + 1) (room + 1) =
      cutFault after operand.lastNesting room :=
    (cutFault_append [] mark more).trans cutFault_succ
  refine nested_eq_error_of_le (Nat.zero_le _) ?_
  rw [Expr.lastNesting, fault, List.cons_append, nested_negation said, fails]
  rfl

/-- A group is cut before its own bracket alone, or in what it holds, too. -/
theorem group (innerStops : inner.StopsUnclosed) : (Expr.group inner).StopsUnclosed := by
  intro room looseness front closing ending stratified _ nesting spells brackets cut ends
  obtain ⟨room, rfl⟩ := Nat.exists_eq_add_of_le' (Nat.le_trans (Nat.succ_pos _) nesting)
  have innerStratified : inner.Stratified := stratified
  have innerNesting : inner.nesting ≤ room := Nat.le_of_succ_le_succ nesting
  obtain ⟨start, after, rfl, opens, told⟩ := Tells.exists_cons_of_cut spells brackets (by simp)
  obtain ⟨inside, last, rfl, unclosed⟩ := told.exists_of_unclosed cut
  have innerBrackets : Closing inside := fun token member =>
    brackets token (List.mem_append_left _ member)
  have more := (unclosed.of_cut [] innerBrackets inner.exists_first_sign).1
  -- One level further down the levels that lead to the cut and the room for them are one less each.
  have fault : cutFault (start :: after) (inner.lastNesting + 1) (room + 1) =
      cutFault after inner.lastNesting room :=
    (cutFault_append [] start more).trans cutFault_succ
  refine nested_eq_error_of_le (Nat.zero_le _) ?_
  rw [Expr.lastNesting, fault, List.cons_append]
  by_cases whole : inside = []
  · -- What the group holds is whole, so it is the group's own bracket that is missed.
    rw [whole, List.append_nil] at unclosed
    have read := nested_whole innerStratified (Nat.lt_succ_of_le innerNesting) unclosed ends
    have closed := unclosed.not_endsOpen inner.getLast?_signs_ne_parenLeft
    rw [cutFault, if_neg closed]
    exact nested_group_missing opens read ends
  · have fails := innerStops room loosest after inside ending innerStratified
      inner.level_add_loosest innerNesting unclosed innerBrackets whole ends
    rw [nested_group opens, fails]
    rfl

/-- What is left of a call that is cut is its name, its opening bracket and what is left of its
arguments. -/
theorem exists_of_call {front closing : List Token}
    (spells : Spells (front ++ closing) (.call name args)) (brackets : Closing closing)
    (cut : closing ≠ []) :
    ∃ word start after inside, front = word :: start :: after ∧
      word.sign? = some (.name name) ∧ start.sign? = some (.mark .parenLeft) ∧
      Closing inside ∧ Tells (after ++ inside) (Expr.signsOfAll args) := by
  obtain ⟨word, after, rfl, said, told⟩ := Tells.exists_cons_of_cut spells brackets (by simp)
  obtain ⟨start, after, rfl, opens, told⟩ := told.exists_cons_of_cut brackets (by simp)
  obtain ⟨inside, last, rfl, unclosed⟩ := told.exists_of_unclosed cut
  exact ⟨word, start, after, inside, rfl, said, opens,
    fun token member => brackets token (List.mem_append_left _ member), unclosed⟩

/-- A call without arguments is cut behind its opening bracket, where an argument might stand. -/
theorem call_nil (name : String) : (Expr.call name []).StopsUnclosed := by
  intro room looseness front closing ending _ _ _ spells brackets cut ends
  obtain ⟨word, start, after, inside, rfl, said, opens, _, unclosed⟩ :=
    exists_of_call spells brackets cut
  obtain ⟨rfl, rfl⟩ := List.append_eq_nil_iff.mp unclosed.eq_nil
  exact nested_eq_error_of_le (Nat.zero_le _) (nested_call_empty said opens ends)

/-- A call with arguments is cut before its own bracket alone, or in its arguments, too. -/
theorem call_cons (name : String) (argsStop : AllStopUnclosed (arg :: others)) :
    (Expr.call name (arg :: others)).StopsUnclosed := by
  intro room looseness front closing ending stratified _ nesting spells brackets cut ends
  have given : arg :: others ≠ [] := List.cons_ne_nil arg others
  obtain ⟨word, start, after, inside, rfl, said, opens, innerBrackets, unclosed⟩ :=
    exists_of_call spells brackets cut
  obtain ⟨some, more⟩ := unclosed.of_cut ending innerBrackets
    (Expr.exists_first_sign_of_all arg others)
  -- Neither the name nor the opening bracket stands at the end, since arguments come behind them.
  have fault : cutFault (word :: start :: after) (Expr.lastNestingOfAll (arg :: others)) room =
      cutFault after (Expr.lastNestingOfAll (arg :: others)) room :=
    cutFault_append [word] start some
  refine nested_eq_error_of_le (Nat.zero_le _) ?_
  rw [Expr.lastNesting, fault, List.cons_append, List.cons_append]
  by_cases whole : inside = []
  · -- All arguments are whole, so it is the bracket of the call that is missed.
    rw [whole, List.append_nil] at unclosed
    have read := argumentList_whole given stratified nesting unclosed ends
    have closed := unclosed.not_endsOpen (Expr.getLast?_signsOfAll_ne_parenLeft _)
    rw [cutFault, if_neg closed]
    exact nested_call_missing said opens more read ends
  · have fails := argsStop room _ after inside ending given stratified nesting unclosed
      innerBrackets whole ends (Nat.lt_succ_self _)
    rw [nested_call said opens more, fails]
    rfl

end Expr.StopsUnclosed

namespace Expr.AllStopUnclosed

/-- A single argument is the one that is cut. -/
theorem singleton (argStops : arg.StopsUnclosed) : AllStopUnclosed [arg] := by
  intro room bound front closing ending _ stratified nesting told brackets cut ends enough
  obtain ⟨bound, rfl⟩ := Nat.exists_eq_add_of_le' (Nat.zero_lt_of_lt enough)
  have argNesting := (Nat.max_le.mp nesting).1
  obtain ⟨room, rfl⟩ := Nat.exists_eq_add_of_le' (Nat.le_trans (Nat.succ_pos _) argNesting)
  rw [Expr.signsOfAll_singleton] at told
  -- An argument is one level further down than the call.
  have fails := argStops room loosest front closing ending stratified.1 arg.level_add_loosest
    (Nat.le_of_succ_le_succ argNesting) told brackets cut ends
  have levels : Expr.lastNestingOfAll [arg] = arg.lastNesting + 1 := by
    simp [Expr.lastNestingOfAll]
  rw [levels, cutFault_succ]
  exact argumentList_eq_error fails

/-- Where there are other arguments behind it, the first one is whole, and the cut is in one of the
others. -/
theorem cons (arg : Expr) (last : others ≠ []) (othersStop : AllStopUnclosed others) :
    AllStopUnclosed (arg :: others) := by
  intro room bound front closing ending _ stratified nesting told brackets cut ends enough
  obtain ⟨bound, rfl⟩ := Nat.exists_eq_add_of_le' (Nat.zero_lt_of_lt enough)
  obtain ⟨firstStratified, othersStratified⟩ := stratified
  obtain ⟨firstNesting, othersNesting⟩ := Nat.max_le.mp nesting
  rw [Expr.signsOfAll_cons arg last] at told
  obtain ⟨before, comma, after, rfl, first, said, told⟩ := told.exists_of_cut brackets (by simp)
  have levels : Expr.lastNestingOfAll (arg :: others) = Expr.lastNestingOfAll others := by
    simp [Expr.lastNestingOfAll, last]
  have less : (after ++ ending).length < bound := by
    simp only [List.length_append, List.length_cons] at enough ⊢
    omega
  have fails := othersStop room bound after closing ending last othersStratified othersNesting
    told brackets cut ends less
  -- The others start with a sign of their own, so what is left of them is not nothing.
  obtain ⟨next, rest, rfl⟩ := List.exists_cons_of_ne_nil last
  have more := (told.of_cut [] brackets (Expr.exists_first_sign_of_all next rest)).1
  rw [levels, cutFault_append before comma more, List.append_assoc, List.cons_append,
    argumentList_cons firstStratified (Nat.lt_of_succ_le firstNesting) first said, fails]
  rfl

end Expr.AllStopUnclosed

mutual

/-- Reading any expression stops where it is cut before a bracket that closes it. -/
theorem Expr.stopsUnclosed : ∀ expr : Expr, expr.StopsUnclosed
  | .literal _ => .of_last [] rfl Sign.noConfusion
  | .cell _ => .of_last [] rfl Sign.noConfusion
  | .range first _ => .of_last [.cell first, .mark .dotDot] rfl Sign.noConfusion
  | .binary op left right => .binary op left right.stopsUnclosed
  | .negation operand => .negation operand.stopsUnclosed
  | .group inner => .group inner.stopsUnclosed
  | .call name [] => .call_nil name
  | .call name (arg :: others) => .call_cons name (Expr.allStopUnclosed (arg :: others))

/-- Reading any arguments stops where they are cut before a bracket that closes the last of them. -/
theorem Expr.allStopUnclosed : ∀ args : List Expr, Expr.AllStopUnclosed args
  | [] => fun _ _ _ _ _ given => absurd rfl given
  | [arg] => .singleton arg.stopsUnclosed
  | arg :: next :: others =>
    .cons arg (List.cons_ne_nil next others) (Expr.allStopUnclosed (next :: others))

end

end Unclosed

/-- Tokens that spell an expression but for some closing brackets at its end are refused because a
bracket is missing; except that where they end with the opening bracket of an empty call, an
argument is expected in its place, or found too deep. -/
theorem parseTokens_unclosed {front closing ending : List Token} {expr : Expr}
    (stratified : expr.Stratified) (nesting : expr.nesting ≤ maxNesting)
    (spells : Spells (front ++ closing) expr) (brackets : Closing closing) (cut : closing ≠ [])
    (ends : nextKind ending = .endOfText) :
    parseTokens (front ++ ending) = .error
      (if EndsOpen front then
        if expr.lastNesting < maxNesting then .unexpectedToken else .tooDeep
      else .missingParen) := by
  -- The parser starts with room for the nesting that is allowed, and meets the fault on its way.
  have fails := expr.stopsUnclosed maxNesting loosest front closing ending stratified
    expr.level_add_loosest nesting spells brackets cut ends
  rw [parseTokens, fails]
  rfl

/-- A call without arguments, in brackets. -/
def bracketed : Expr := .group (.call "f" [])

/-- The tokens of `(f(`. -/
def bracketedTokens : List Token :=
  [.plain .parenLeft ['('], .plain .identifier ['f'], .plain .parenLeft ['(']]

/-- Without the last bracket that closes it, `(f())` misses one; without both of them, an argument
is expected. -/
theorem parseTokens_unclosed_bracketed :
    let bracket := Token.plain .parenRight [')']
    bracketed.Stratified ∧ bracketed.nesting ≤ maxNesting ∧
      Spells (bracketedTokens ++ [bracket, bracket]) bracketed ∧
      parseTokens (bracketedTokens ++ [bracket] ++ [Token.endOfText]) = .error .missingParen ∧
      parseTokens (bracketedTokens ++ [Token.endOfText]) = .error .unexpectedToken := by
  intro bracket
  have stratified : bracketed.Stratified := trivial
  have nesting : bracketed.nesting ≤ maxNesting := by decide
  have spells : Spells (bracketedTokens ++ [bracket, bracket]) bracketed := rfl
  have same : Spells ((bracketedTokens ++ [bracket]) ++ [bracket]) bracketed := rfl
  -- One bracket is cut off first, and then both.
  have one : Closing [bracket] := by
    unfold Closing
    decide
  have both : Closing [bracket, bracket] := by
    unfold Closing
    decide
  exact ⟨stratified, nesting, spells,
    parseTokens_unclosed stratified nesting same one (by simp) rfl,
    parseTokens_unclosed stratified nesting spells both (by simp) rfl⟩

end Spreadsheet.Formula
