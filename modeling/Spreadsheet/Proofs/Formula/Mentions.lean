import Spreadsheet.Proofs.Formula.Asking
import Spreadsheet.Proofs.Formula.Lexemes
import Spreadsheet.Proofs.Range.Enumeration

/-! What the tokens of a source name is all that its expression leads to. -/

namespace Spreadsheet.Formula

variable {source : String} {expr : Expr} {tokens : List Token}

/-- Leaving out repetitions leaves out no address. -/
theorem mem_distinct {address : Address} {addresses : List Address} :
    address ∈ distinct addresses ↔ address ∈ addresses := by
  -- The induction goes down the list as leaving out repetitions does.
  induction addresses with
  | nil => exact Iff.rfl
  | cons first rest ih =>
    rw [distinct, List.mem_cons, List.mem_filter, ih, List.mem_cons]
    -- What is left out of the rest is the address that stands first.
    by_cases same : address = first <;> simp [same]

/-- A text resolves to the address that it names. -/
theorem resolve_eq_ok_iff {text : String} {address : Address} :
    resolve text = .ok address ↔ Address.parse text = .ok address := by
  unfold resolve
  cases Address.parse text <;> simp

/-- An address is what a text names if it parses to it. -/
theorem toOption_parse_eq_some_iff {text : String} {address : Address} :
    (Address.parse text).toOption = some address ↔ Address.parse text = .ok address := by
  cases Address.parse text <;> simp [Except.toOption]

/-- The references of a source are the addresses that its cell tokens name. -/
theorem mem_references (scanned : tokenize source = .ok tokens) {address : Address} :
    address ∈ references source ↔
      ∃ token ∈ tokens, token.kind = .cell ∧ Address.parse token.lexeme = .ok address := by
  -- The cell tokens are kept, and those of them that name an address give it.
  simp only [references, scanned, tokenReferences, mem_distinct, List.mem_filterMap,
    List.mem_filter, decide_eq_true_eq, toOption_parse_eq_some_iff, and_assoc]

/-- A source that parses is spelled by all of its tokens but the end of the text. -/
theorem spells_of_parseSource (parsed : parseSource source = .ok expr) :
    ∃ taken, tokenize source = .ok (taken ++ [Token.endOfText]) ∧ Spells taken expr := by
  unfold parseSource at parsed
  cases scanned : tokenize source with
  | error fault => simp [scanned] at parsed
  | ok tokens =>
    -- Whatever the loosest layer reads, it reads off tokens that spell it.
    rw [scanned] at parsed
    have whole : parseTokens tokens = .ok expr := eq_ok_of_mapError parsed
    obtain ⟨⟨read, rest⟩, found, done⟩ := exists_ok_of_bind whole
    obtain ⟨taken, rfl, spells, _⟩ := nested_sound _ _ found
    dsimp only at done
    split at done
    · -- What is left starts with the end of the text, and that stands last.
      rename_i restEnds
      obtain rfl := Except.ok.inj done
      obtain ⟨before, same, inside⟩ := exists_before_endOfText scanned
      obtain rfl : before = taken := eq_of_append_eq inside (Tells.kind_ne_endOfText spells)
        (fun token member => List.mem_singleton.mp member ▸ rfl) restEnds same.symm
      exact ⟨before, congrArg Except.ok same, spells⟩
    · exact nomatch done

/-- What a leaf of the expression says is told by a token of the source. -/
theorem exists_token_of_leaf (parsed : parseSource source = .ok expr)
    (scanned : tokenize source = .ok tokens) {leaf : Expr} (member : leaf ∈ expr.leaves)
    {sign : Sign} (said : sign ∈ leaf.signs) : ∃ token ∈ tokens, token.sign? = some sign := by
  obtain ⟨taken, same, spells⟩ := spells_of_parseSource parsed
  -- The leaf says part of what the expression does, and that is what these tokens say.
  obtain rfl := Except.ok.inj (scanned.symm.trans same)
  have told : some sign ∈ taken.map Token.sign? := by
    rw [show taken.map Token.sign? = expr.signs.map some from spells]
    exact List.mem_map_of_mem (Expr.signs_subset_of_mem_leaves member said)
  obtain ⟨token, inside, tells⟩ := List.mem_map.mp told
  exact ⟨token, List.mem_append_left _ inside, tells⟩

/-- No token stands for a range. -/
theorem Token.spans_of_sign? {token : Token} {value : Value} {allowed : Range → Prop}
    (told : token.sign? = some (.value value)) : value.Spans allowed := by
  intro range same
  subst same
  -- Only numbers, strings and truth values are written as one token.
  unfold Token.sign? at told
  split at told <;> try simp at told
  all_goals
    obtain ⟨literal, _, same⟩ := told
    cases literal <;> exact nomatch same

/-- No literal of a source that parses is a range. -/
theorem spans_of_literal (parsed : parseSource source = .ok expr) {value : Value}
    (member : .literal value ∈ expr.leaves) (allowed : Range → Prop) : value.Spans allowed := by
  obtain ⟨taken, scanned, _⟩ := spells_of_parseSource parsed
  -- One token of the source tells the literal.
  obtain ⟨token, _, told⟩ := exists_token_of_leaf parsed scanned member
    (show Sign.value value ∈ (Expr.literal value).signs by simp [Expr.signs])
  exact Token.spans_of_sign? told

/-- One of the ranges that an expression spans. -/
def Expr.HasRange (expr : Expr) (range : Range) : Prop :=
  ∃ first last, .range first last ∈ expr.leaves ∧ resolveRange first last = .ok (.range range)

/-- The cells that an expression in a cell mentions: those that its references name beside the cell
itself, and all those of its ranges. -/
def Expr.Mentions (self : Address) (expr : Expr) (address : Address) : Prop :=
  (address ≠ self ∧ ∃ text, .cell text ∈ expr.leaves ∧ Address.parse text = .ok address) ∨
    ∃ range, expr.HasRange range ∧ range.contains address = true

/-- A leaf leads where more cells and more ranges are allowed, too. -/
theorem Expr.Leads.mono {self : Address} {P P' : Address → Prop} {allowed allowed' : Range → Prop}
    {leaf : Expr} (leads : leaf.Leads self P allowed) (cells : ∀ address, P address → P' address)
    (ranges : ∀ range, allowed range → allowed' range) : leaf.Leads self P' allowed' := by
  cases leaf with
  | literal value => exact fun range same => ranges range (leads range same)
  | cell text => exact fun address resolved other => cells address (leads address resolved other)
  | range first last =>
    exact fun value resolved range same => ranges range (leads value resolved range same)
  | binary _ _ _ | negation _ | group _ | call _ _ => trivial

/-- The cell that a leaf names is one that the source refers to. -/
theorem mem_references_of_leaf (parsed : parseSource source = .ok expr) {text : String}
    (member : .cell text ∈ expr.leaves) {address : Address}
    (named : Address.parse text = .ok address) : address ∈ references source := by
  obtain ⟨taken, scanned, _⟩ := spells_of_parseSource parsed
  -- A token of the source tells the reference.
  obtain ⟨token, inside, told⟩ := exists_token_of_leaf parsed scanned member
    (show Sign.cell text ∈ (Expr.cell text).signs by simp [Expr.signs])
  obtain ⟨kind, rfl⟩ := Token.cell_of_sign? told
  exact (mem_references scanned).mpr ⟨token, inside, kind, named⟩

/-- A source leads to the cells that its expression mentions. -/
theorem mentions_of_leaf (parsed : parseSource source = .ok expr) (self : Address) :
    ∀ leaf ∈ expr.leaves, leaf.Leads self (expr.Mentions self) expr.HasRange := by
  intro leaf member
  cases leaf with
  | literal value => exact spans_of_literal parsed member _
  | cell text =>
    intro address resolved other
    exact .inl ⟨other, text, member, resolve_eq_ok_iff.mp resolved⟩
  | range first last =>
    exact fun value resolved range same => ⟨first, last, member, same ▸ resolved⟩
  | binary _ _ _ | negation _ | group _ | call _ _ => trivial

/-- Without two dots among its tokens, the expression of a source has no range. -/
theorem not_hasRange_of_not_dotDot (parsed : parseSource source = .ok expr)
    (scanned : tokenize source = .ok tokens) (dotless : ∀ token ∈ tokens, token.kind ≠ .dotDot)
    (range : Range) : ¬ expr.HasRange range := by
  intro hasRange
  obtain ⟨first, last, member, _⟩ := hasRange
  have said : Sign.mark .dotDot ∈ (Expr.range first last).signs := by simp [Expr.signs]
  obtain ⟨token, inside, told⟩ := exists_token_of_leaf parsed scanned member said
  exact dotless token inside (Token.kind_of_sign?_mark told)

/-- A source asks for cells that its expression mentions, if it has one. -/
theorem textCourse_mentions (self : Address) (source : String) :
    (textCourse self Builtin.registry source).Holds
      (fun address => ∃ expr, parseSource source = .ok expr ∧ expr.Mentions self address)
      fun _ => True := by
  -- A function that walks through a range comes to its cells only.
  have walked : ∀ range, (∃ expr, parseSource source = .ok expr ∧ expr.HasRange range) →
      ∀ cell ∈ range.cells, ∃ expr, parseSource source = .ok expr ∧ expr.Mentions self cell := by
    intro range spanned cell member
    obtain ⟨expr, parsed, hasRange⟩ := spanned
    exact ⟨expr, parsed, .inr ⟨range, hasRange, Range.contains_of_mem_cells member⟩⟩
  exact textCourse_holds walked fun expr parsed leaf member =>
    (mentions_of_leaf parsed self leaf member).mono
      (fun _ mentions => ⟨expr, parsed, mentions⟩) fun _ hasRange => ⟨expr, parsed, hasRange⟩

/-- A source asks for the cells that it refers to beside its own, and for those of its ranges. -/
theorem textCourse_asks (self : Address) (source : String) :
    (textCourse self Builtin.registry source).Holds
      (fun address => (address ∈ references source ∧ address ≠ self) ∨
        ∃ expr range, parseSource source = .ok expr ∧ expr.HasRange range ∧
          range.contains address = true) fun _ => True := by
  refine (textCourse_mentions self source).mono (fun address asked => ?_) fun _ _ => trivial
  obtain ⟨expr, parsed, mentions⟩ := asked
  rcases mentions with ⟨other, text, member, named⟩ | ⟨range, hasRange, inside⟩
  · exact .inl ⟨mem_references_of_leaf parsed member named, other⟩
  · exact .inr ⟨expr, range, parsed, hasRange, inside⟩

/-- Without two dots among its tokens, a source asks for no cell but those that it refers to beside
its own. -/
theorem textCourse_asks_references
    (dotless : ∀ tokens, tokenize source = .ok tokens → ∀ token ∈ tokens, token.kind ≠ .dotDot)
    (self : Address) :
    (textCourse self Builtin.registry source).Holds
      (fun address => address ∈ references source ∧ address ≠ self) fun _ => True := by
  refine (textCourse_asks self source).mono (fun address asked => ?_) fun _ _ => trivial
  -- No range is there, so none has been walked through.
  rcases asked with named | ⟨expr, range, parsed, hasRange, _⟩
  · exact named
  · obtain ⟨taken, scanned, _⟩ := spells_of_parseSource parsed
    exact absurd hasRange (not_hasRange_of_not_dotDot parsed scanned (dotless _ scanned) range)

section Named

mutual

/-- The cells that an expression names, from left to right; a range names both of its ends. -/
def Expr.named : Expr → List String
  | .literal _ => []
  | .cell text => [text]
  | .range first last => [first, last]
  | .binary _ left right => left.named ++ right.named
  | .negation operand => operand.named
  | .group inner => inner.named
  | .call _ args => Expr.namedByAll args

/-- The cells that some arguments name. -/
def Expr.namedByAll : List Expr → List String
  | [] => []
  | expr :: rest => expr.named ++ namedByAll rest

end

/-- The cell that a sign names, if it does. -/
def Sign.cell? : Sign → Option String
  | .cell text => some text
  | _ => none

mutual

/-- The cells that an expression names are those among its signs. -/
theorem Expr.filterMap_signs : ∀ expr : Expr, expr.signs.filterMap Sign.cell? = expr.named
  | .literal _ | .cell _ | .range _ _ => rfl
  | .binary _ left right => by
    -- The operator between the operands names no cell.
    rw [Expr.signs, List.filterMap_append, left.filterMap_signs,
      List.filterMap_cons_none rfl, right.filterMap_signs, Expr.named]
  | .negation operand => by
    rw [Expr.signs, List.filterMap_cons_none rfl, operand.filterMap_signs, Expr.named]
  | .group inner => by
    rw [Expr.signs, List.filterMap_cons_none rfl, List.filterMap_append, inner.filterMap_signs,
      Expr.named]
    exact List.append_nil _
  | .call _ args => by
    rw [Expr.signs, List.filterMap_cons_none rfl, List.filterMap_cons_none rfl,
      List.filterMap_append, filterMap_signsOfAll args, Expr.named]
    exact List.append_nil _

/-- The cells that some arguments name are those among their signs. -/
theorem Expr.filterMap_signsOfAll : ∀ args : List Expr,
    (Expr.signsOfAll args).filterMap Sign.cell? = Expr.namedByAll args
  | [] => rfl
  | [expr] => by
    rw [Expr.signsOfAll_singleton, expr.filterMap_signs, Expr.namedByAll, Expr.namedByAll,
      List.append_nil]
  | expr :: next :: rest => by
    -- The comma between two arguments names no cell.
    rw [Expr.signsOfAll_cons expr (List.cons_ne_nil next rest), List.filterMap_append,
      expr.filterMap_signs, List.filterMap_cons_none rfl, filterMap_signsOfAll (next :: rest)]
    rfl

end

/-- A token names a cell if it is a cell token, and by its lexeme. -/
theorem Token.cell?_of_sign? {token : Token} {sign : Sign} (told : token.sign? = some sign) :
    sign.cell? = if token.kind = .cell then some token.lexeme else none := by
  obtain ⟨kind, lexeme, literal⟩ := token
  cases kind with
  | number | string =>
    obtain ⟨_, _, rfl⟩ := Option.map_eq_some_iff.mp told
    rfl
  | endOfText => exact nomatch told
  | _ =>
    obtain rfl := Option.some.inj told
    rfl

/-- The lexemes of the cell tokens are what the signs name. -/
theorem Tells.map_lexeme {signs : List Sign} (told : Tells tokens signs) :
    (tokens.filter fun token => token.kind = .cell).map Token.lexeme =
      signs.filterMap Sign.cell? := by
  -- Tokens and signs go side by side, and a token is kept on one side if its sign is on the other.
  induction signs generalizing tokens with
  | nil => rw [told.eq_nil]; rfl
  | cons sign signs ih =>
    obtain ⟨token, rest, rfl, said, told⟩ := told.exists_cons
    have names := Token.cell?_of_sign? said
    by_cases cell : token.kind = .cell
    · rw [if_pos cell] at names
      rw [List.filter_cons_of_pos (by simpa using cell), List.map_cons, ih told,
        List.filterMap_cons_some names]
    · rw [if_neg cell] at names
      rw [List.filter_cons_of_neg (by simpa using cell), ih told, List.filterMap_cons_none names]

/-- Repetitions may be left out before or after other addresses are. -/
theorem distinct_filter (keeps : Address → Bool) (addresses : List Address) :
    distinct (addresses.filter keeps) = (distinct addresses).filter keeps := by
  -- Leaving out repetitions of the first address and leaving out others can be swapped.
  induction addresses with
  | nil => rfl
  | cons first rest ih =>
    by_cases kept : keeps first = true
    · rw [List.filter_cons_of_pos kept, distinct, distinct, List.filter_cons_of_pos kept, ih,
        List.filter_filter, List.filter_filter]
      simp only [Bool.and_comm]
    · -- What is left out beside the first address is no address that is kept.
      rw [List.filter_cons_of_neg kept, distinct, List.filter_cons_of_neg kept, ih,
        List.filter_filter]
      refine List.filter_congr fun other _ => ?_
      by_cases same : other = first
      · simpa [same] using kept
      · simp [same]

/-- Leaving out repetitions keeps each address where it first stands. -/
theorem distinct_eq_eraseDups (addresses : List Address) :
    distinct addresses = addresses.eraseDups := by
  match addresses with
  | [] => rfl
  | first :: rest =>
    have shorter := List.length_filter_le (fun other => other != first) rest
    have later := distinct_eq_eraseDups (rest.filter fun other => other != first)
    rw [distinct, List.eraseDups_cons, ← distinct_filter, later]
    rfl
  termination_by addresses.length

/-- A source that parses refers to the addresses of the cells that its expression names, each of
them once and where it is first named. -/
theorem references_eq_named (parsed : parseSource source = .ok expr) :
    references source =
      (expr.named.filterMap fun text => (Address.parse text).toOption).eraseDups := by
  obtain ⟨taken, scanned, spells⟩ := spells_of_parseSource parsed
  have cells : ((taken ++ [Token.endOfText]).filter fun token => token.kind = .cell).map
      Token.lexeme = expr.named := by
    have none : [Token.endOfText].filter (fun token => token.kind = .cell) = [] := rfl
    rw [List.filter_append, none, List.append_nil, Tells.map_lexeme spells, expr.filterMap_signs]
  simp only [references, scanned, tokenReferences, distinct_eq_eraseDups, ← cells,
    List.filterMap_map, Function.comp_def]

end Named

end Spreadsheet.Formula
