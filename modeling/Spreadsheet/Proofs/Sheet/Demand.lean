import Spreadsheet.Proofs.Sheet.Calls
import Spreadsheet.Proofs.Sheet.Dependence
import Spreadsheet.Proofs.Sheet.Lasting
import Spreadsheet.Proofs.Sheet.Redisplay

/-! Cells that are computed on demand, where the ceilings have room for every chain of formulas that
depend on one another: they show what a recalculation leaves in them. -/

namespace Spreadsheet

open Formula (Builtin.registry Depth EvalFault Fault Read Reading defaultMaxReads maxNodes
  textCourse)

namespace Sheet

variable {sheet : Sheet} {maxReads : Nat} {cell : Address}

/-- What computing a cell on its own gives. -/
def demanded (sheet : Sheet) (maxReads : Nat) (cell : Address) : Except EvalFault String :=
  ((Pass.start sheet).compute maxReads cell ⟨0, 0⟩).1

/-- A cell without a formula is not computed. -/
theorem demanded_of_plain (plain : sheet.source? cell = none) :
    sheet.demanded maxReads cell = (Pass.start sheet).textAt cell := by
  have none : (Pass.start sheet).sheet.source? cell = Option.none := plain
  rw [demanded, Pass.compute_eq, none]

end Sheet

namespace Pass

variable {sheet : Sheet} {maxReads : Nat} {pass : Pass} {cell : Address} {depth : Depth}
  {source : String}

/-- A formula that is computed within no other one is not given up. -/
theorem exists_text_of_compute (formula : pass.sheet.source? cell = some source) (nodes : Nat) :
    ∃ text, (pass.compute maxReads cell ⟨0, nodes⟩).1 = .ok text := by
  obtain ⟨text, gives, _⟩ := exists_shown_of_compute formula maxReads nodes
  exact ⟨text, gives⟩

/-- What a cell gives on its own is not circular. -/
theorem demanded_ne_circular (sheet : Sheet) (maxReads : Nat) (cell : Address) :
    sheet.demanded maxReads cell ≠ .error .circular := by
  cases formula : sheet.source? cell with
  | none =>
    rw [Sheet.demanded_of_plain formula]
    exact textAt_ne_circular
  | some source =>
    have there : (start sheet).sheet.source? cell = some source := formula
    obtain ⟨text, gives⟩ := exists_text_of_compute there 0
    exact fun equal => nomatch gives.symm.trans equal

/-- A pass over a sheet, or over one that is alike, that knows only what the cells give on their
own. -/
structure Agrees (sheet : Sheet) (maxReads : Nat) (pass : Pass) : Prop where
  alike : sheet.Alike pass.sheet
  known : ∀ cell text, pass.known cell = some text → text = sheet.demanded maxReads cell

/-- A pass that starts knows no formula, and all other cells show the same. -/
theorem agrees_start {other : Sheet} (alike : sheet.Alike other) (maxReads : Nat) :
    Agrees sheet maxReads (start other) := by
  refine ⟨alike, fun cell text found => ?_⟩
  cases formula : sheet.source? cell with
  | some source =>
    -- A formula is not known yet, whatever it shows.
    have unknown := (known_start other cell).mpr (by rw [← alike.source?, formula]; rfl)
    simp [unknown] at found
  | none =>
    have same : (start sheet).sheet.cellAt? cell = (start other).sheet.cellAt? cell :=
      alike.plain cell formula
    rw [Sheet.demanded_of_plain formula, ← textAt_of_known found, textAt_eq, textAt_eq, same]

/-- Settling a formula with what it gives on its own adds nothing else to what is known. -/
theorem Agrees.settle (agrees : Agrees sheet maxReads pass)
    (formula : pass.sheet.source? cell = some source) {display : String}
    (gives : sheet.demanded maxReads cell = .ok display) :
    Agrees sheet maxReads (pass.settle cell display) := by
  refine ⟨agrees.alike.trans (alike_settle formula display), fun other text found => ?_⟩
  rw [known_settle formula] at found
  split at found
  · rename_i same
    rw [same, gives]
    exact (Option.some.inj found).symm
  · exact agrees.known other text found

/-- A formula asks for what it may read. -/
theorem attempt_asks (formula : sheet.source? cell = some source)
    (fits : sheet.heightAt cell ≤ maxNodes) (maxReads : Nat) (depth : Depth) :
    (attempt maxReads cell source depth).Holds (sheet.MayRead cell depth) fun _ => True := by
  have height := Sheet.heightAt_of_source formula
  rw [height] at fits
  have asks := (Formula.textCourse_asks cell source).bounded (.error (.eval .circular)) maxReads
    depth
  -- No evaluation asks above the ceiling, so none asks deeper within a formula than it is high.
  have deeper := (attempt_deeper 1 cell source ⟨0, maxNodes - Formula.sourceHeight source⟩).mono
    (fun read (below : Deeper _ read) => below.2) fun _ _ => trivial
  have depths := Formula.Course.holds_bounded_of_within
    (Formula.textCourse_within cell Builtin.registry source) fits deeper maxReads depth
  refine (asks.and depths).mono (fun read asked => ?_) fun _ _ => trivial
  obtain ⟨led, reads, nodes⟩ := asked
  refine ⟨fun isFormula => ?_, reads, height ▸ nodes⟩
  -- A cell that is named or in a range is one that is depended on, if it holds a formula.
  rcases led with ⟨named, distinct⟩ | ⟨expr, range, parsed, hasRange, inside⟩
  · exact .inl ⟨source, formula, named, isFormula, distinct⟩
  · exact .inr ⟨source, expr, range, formula, parsed, hasRange, inside, isFormula⟩

/-- What comes of asking for a cell is what the cell gives on its own, and nothing else is known
afterwards than what cells give on their own. -/
structure Gives (sheet : Sheet) (maxReads : Nat) (cell : Address)
    (outcome : Except EvalFault String × Pass) : Prop where
  text : outcome.1 = sheet.demanded maxReads cell
  agrees : Agrees sheet maxReads outcome.2

/-- A request is answered with what its cell gives on its own, if computing that cell gives this. -/
theorem answer_gives (agrees : Agrees sheet maxReads pass) {read : Read}
    (computed : sheet.isFormula read.address = true →
      Gives sheet maxReads read.address (pass.compute maxReads read.address read.depth)) :
    Gives sheet maxReads read.address (answer maxReads read pass) := by
  cases found : pass.known read.address with
  | some text =>
    rw [answer_of_known read found]
    exact ⟨agrees.known read.address text found, agrees⟩
  | none =>
    -- Only a formula is not known.
    obtain ⟨source, formula⟩ := exists_source_of_unknown found
    rw [answer_of_unknown read found]
    refine computed ?_
    rw [agrees.alike.isFormula, Sheet.isFormula, formula]
    rfl

/-- What a formula comes to when each cell that it reads is told as what it gives on its own. -/
def outcomeOf (sheet : Sheet) (maxReads : Nat) (cell : Address) (source : String) :
    Except Fault String :=
  (textCourse cell Builtin.registry source).under (sheet.demanded maxReads)

/-- Under the texts that cells give on their own no formula is circular. -/
theorem outcomeOf_ne_circular (sheet : Sheet) (maxReads : Nat) (cell : Address) (source : String) :
    outcomeOf sheet maxReads cell source ≠ .error (.eval .circular) :=
  Formula.Course.under_ne_stop (Formula.textCourse_passesOn Formula.Builtin.registry_passesOn _ _)
    (demanded_ne_circular sheet maxReads)

/-- Computing any of the cells that one depends on gives what that cell gives on its own, from where
there is room for it. -/
def GivesBelow (sheet : Sheet) (maxReads : Nat) (cell : Address) : Prop :=
  ∀ (read : Read) (pass : Pass), sheet.Depends cell read.address →
    sheet.Room maxReads read.address read.depth → Agrees sheet maxReads pass →
    Gives sheet maxReads read.address (pass.compute maxReads read.address read.depth)

/-- A formula that is run where there is room comes to what it does under the texts that its cells
give on their own, if computing these cells gives these texts. -/
theorem run_agrees (agrees : Agrees sheet maxReads pass)
    (formula : sheet.source? cell = some source) (room : sheet.Room maxReads cell depth)
    (below : GivesBelow sheet maxReads cell) :
    let ran := (attempt maxReads cell source depth).run (answer maxReads) pass
    ran.1 = outcomeOf sheet maxReads cell source ∧ Agrees sheet maxReads ran.2 := by
  obtain ⟨reads, nodes⟩ := room.here
  have asks := attempt_asks formula (by omega) maxReads depth
  have answers : ∀ read pass, sheet.MayRead cell depth read → Agrees sheet maxReads pass →
      (answer maxReads read pass).1 = sheet.demanded maxReads read.address ∧
        Agrees sheet maxReads (answer maxReads read pass).2 := by
    intro read pass may agrees
    obtain ⟨text, kept⟩ := answer_gives agrees fun isFormula =>
      below read pass (may.depends isFormula) (room.there may isFormula) agrees
    exact ⟨text, kept⟩
  -- So the run goes as if it were told these texts, and no ceiling stops it then.
  obtain ⟨told, kept⟩ := Reading.run_of_invariant asks answers agrees
  refine ⟨told.trans ?_, kept⟩
  have height := Sheet.heightAt_of_source formula
  exact Formula.Course.run_bounded_of_room
    (Formula.textCourse_within cell Builtin.registry source) reads (height ▸ nodes)

/-- Settling what a formula gives on its own is to give it. -/
theorem conclude_gives (agrees : Agrees sheet maxReads pass)
    (formula : pass.sheet.source? cell = some source) {result : Except Fault String}
    (other : result ≠ .error (.eval .circular))
    (gives : sheet.demanded maxReads cell = .ok (rendered result)) (reads : Nat) :
    Gives sheet maxReads cell (pass.conclude cell reads result) := by
  rw [conclude_of_kept fun dropped => other dropped.1]
  obtain ⟨alike, known⟩ := agrees.settle formula gives
  exact ⟨gives.symm, alike, known⟩

/-- Where there is room for a cell, computing it gives what it gives on its own. -/
theorem compute_gives (within : sheet.WithinCeilings maxReads)
    (agrees : Agrees sheet maxReads pass) (room : sheet.Room maxReads cell depth) :
    Gives sheet maxReads cell (pass.compute maxReads cell depth) := by
  -- The paths from a cell on are bounded, and shorter from the formulas that it depends on.
  obtain ⟨bound, bounded⟩ :
      ∃ bound, ∀ path, List.IsChain sheet.Depends (cell :: path) → path.length < bound :=
    ⟨maxReads, fun path chain => by have := (room path chain).1; omega⟩
  induction bound generalizing cell depth pass with
  | zero => exact absurd (bounded [] (List.isChain_singleton cell)) (Nat.not_lt_zero _)
  | succ bound ih =>
    cases formula : sheet.source? cell with
    | none =>
      have plain : pass.sheet.source? cell = none := (agrees.alike.source? cell).symm.trans formula
      rw [compute_eq, plain]
      exact ⟨agrees.known cell _ (known_of_plain plain), agrees⟩
    | some source =>
      have below : GivesBelow sheet maxReads cell := by
        intro read pass depends room agrees
        refine ih agrees room fun path chain => ?_
        have longer := bounded (read.address :: path) (List.isChain_cons_cons.mpr ⟨depends, chain⟩)
        rw [List.length_cons] at longer
        omega
      -- On its own the formula comes to the same as at the depth, which makes this what it gives.
      have gives : sheet.demanded maxReads cell =
          .ok (rendered (outcomeOf sheet maxReads cell source)) := by
        have alone := run_agrees (agrees_start (.refl sheet) maxReads) formula (within.room cell)
          below
        have there : (start sheet).sheet.source? cell = some source := formula
        rw [Sheet.demanded, compute_of_source there, alone.1,
          conclude_of_kept fun dropped => Nat.lt_irrefl 0 dropped.2]
      obtain ⟨same, kept⟩ := run_agrees agrees formula room below
      have there : pass.sheet.source? cell = some source :=
        (agrees.alike.source? cell).symm.trans formula
      have stays : _ = some source := (kept.alike.source? cell).symm.trans formula
      rw [compute_of_source there, same]
      exact conclude_gives kept stays (outcomeOf_ne_circular sheet maxReads cell source) gives _

/-- Visiting a cell adds to what is known only what cells give on their own. -/
theorem visit_agrees (within : sheet.WithinCeilings maxReads) (agrees : Agrees sheet maxReads pass)
    (cell : Address) : Agrees sheet maxReads (pass.visit maxReads cell) := by
  -- A cell that is settled is passed over.
  unfold visit
  split
  · exact agrees
  · exact (compute_gives within agrees (within.room cell)).agrees

/-- So does visiting some cells in turn. -/
theorem visits_agree (within : sheet.WithinCeilings maxReads) (agrees : Agrees sheet maxReads pass)
    (order : List Address) : Agrees sheet maxReads (order.foldl (visit maxReads) pass) := by
  induction order generalizing pass with
  | nil => exact agrees
  | cons first rest ih => exact ih (visit_agrees within agrees first)

namespace Call

variable {call outer inner : Call}

/-- A computation with room for its cell, in a pass that knows only what cells give on their own. -/
structure Roomy (sheet : Sheet) (maxReads : Nat) (call : Call) : Prop where
  agrees : Agrees sheet maxReads call.pass
  room : sheet.Room maxReads call.address call.depth

/-- A computation that is started by one with room has room, too. -/
theorem Roomy.starts (within : sheet.WithinCeilings maxReads) (roomy : outer.Roomy sheet maxReads)
    (starts : outer.Starts maxReads inner) : inner.Roomy sheet maxReads := by
  obtain ⟨source, formula, meets, isFormula, _⟩ := starts
  rw [roomy.agrees.alike.symm.source?] at formula
  have asks := attempt_asks formula (by have := roomy.room.here.2; omega) maxReads outer.depth
  -- Up to the request the pass keeps to what cells give on their own.
  have kept : ∀ read pass, sheet.MayRead outer.address outer.depth read →
      Agrees sheet maxReads pass → Agrees sheet maxReads (answer maxReads read pass).2 :=
    fun read pass may agrees => (answer_gives agrees fun isFormula =>
      compute_gives within agrees (roomy.room.there may isFormula)).agrees
  rw [evaluation_eq] at meets
  obtain ⟨may, agrees⟩ := meets.invariant asks kept roomy.agrees
  exact ⟨agrees, roomy.room.there may ((agrees.alike.isFormula inner.address).trans isFormula)⟩

/-- The evaluation of a computation with room is not circular. -/
theorem Roomy.evaluation_ne_circular (within : sheet.WithinCeilings maxReads)
    (roomy : call.Roomy sheet maxReads)
    (formula : call.pass.sheet.source? call.address = some source) :
    ((call.evaluation maxReads source).run (answer maxReads) call.pass).1 ≠
      .error (.eval .circular) := by
  rw [roomy.agrees.alike.symm.source?] at formula
  have below : GivesBelow sheet maxReads call.address :=
    fun read pass _ room agrees => compute_gives within agrees room
  have ran := run_agrees roomy.agrees formula roomy.room below
  rw [evaluation_eq, ran.1]
  exact outcomeOf_ne_circular sheet maxReads call.address source

end Call

end Pass

namespace Sheet

variable {sheet : Sheet} {maxReads : Nat} {call : Pass.Call}

/-- Where no formula depends on itself, none is on a cycle of references. -/
theorem WithinCeilings.not_onCycle (within : sheet.WithinCeilings maxReads) (cell : Address) :
    ¬ sheet.graph.OnCycle cell := fun onCycle =>
  within.acyclic cell (Relation.TransGen.mono
    (fun _ _ refers => .inl (refers_graph_iff.mp refers)) _ _ (Graph.onCycle_iff.mp onCycle))

/-- Where no formula depends on itself, none is scheduled as being on a cycle. -/
theorem WithinCeilings.cyclic_eq_nil (within : sheet.WithinCeilings maxReads) :
    sheet.graph.schedule.cyclic = [] :=
  graph_tidy.cyclic_eq_nil fun cell path => within.not_onCycle cell (Graph.onCycle_iff.mpr path)

/-- At each point of a recalculation only what cells give on their own is known. -/
theorem WithinCeilings.visiting_agrees (within : sheet.WithinCeilings maxReads)
    (cells : List Address) : Pass.Agrees sheet maxReads (sheet.visiting maxReads cells) := by
  refine Pass.visits_agree within ?_ cells
  rw [marking, within.cyclic_eq_nil]
  exact Pass.agrees_start (.refl sheet) maxReads

/-- A recalculation makes all computations where there is room for them. -/
theorem Makes.roomy (makes : sheet.Makes maxReads call) (within : sheet.WithinCeilings maxReads) :
    call.Roomy sheet maxReads := by
  -- The induction goes from a visit along the computations that start one another.
  obtain ⟨visit, visits, starts⟩ := makes
  induction starts with
  | refl =>
    obtain ⟨before, after, _, depth, pass, _⟩ := visits
    exact ⟨pass ▸ within.visiting_agrees before, depth ▸ within.room visit.address⟩
  | tail _ starts ih => exact ih.starts within starts

/-- Where the ceilings have room for every path of formulas that depend on one another, a
recalculation stores a result for every formula, none of them circular. -/
theorem WithinCeilings.exists_stored (within : sheet.WithinCeilings maxReads) {source : String}
    (formula : sheet.source? cell = some source) :
    ∃ call result, sheet.Makes maxReads call ∧ call.address = cell ∧
      call.Stores maxReads result ∧ result ≠ .error (.eval .circular) ∧
      (sheet.calculate maxReads).1.shownAt cell = .ok (Pass.rendered result) := by
  obtain ⟨call, result, makes, same, stores, shows⟩ :=
    Sheet.exists_stored maxReads formula (within.not_onCycle cell)
  refine ⟨call, result, makes, same, stores, ?_, ?_⟩
  · -- What is stored is what an evaluation with enough room has come to.
    obtain ⟨source, there, rfl, _⟩ := stores
    exact (makes.roomy within).evaluation_ne_circular within there
  · rw [calculate_eq]
    exact shows

/-- Where the ceilings have room for every path of formulas that depend on one another, evaluation
in order and on demand agree: no evaluation of a recalculation is circular, what each formula shows
after it is the result of such an evaluation, and computing a formula on its own gives the text that
the recalculation leaves in it, whatever the formulas show before. -/
theorem calculate_eq_evaluateCell (within : sheet.WithinCeilings defaultMaxReads) :
    ((sheet.calculate defaultMaxReads).2.circular = 0 ∧
      ∀ call source, sheet.Makes defaultMaxReads call →
        call.pass.sheet.source? call.address = some source →
        ((call.evaluation defaultMaxReads source).run (Pass.answer defaultMaxReads) call.pass).1 ≠
          .error (.eval .circular)) ∧
      ∀ cell, sheet.isFormula cell = true → ∃ text,
        (sheet.calculate defaultMaxReads).1.shownAt cell = .ok text ∧
          (∃ call result, sheet.Makes defaultMaxReads call ∧ call.address = cell ∧
            call.Stores defaultMaxReads result ∧ result ≠ .error (.eval .circular) ∧
            text = Pass.rendered result) ∧
          ∀ other, sheet.Alike other → ∃ after, other.evaluateCell cell = .ok (text, after) := by
  refine ⟨⟨?_, fun call source makes formula =>
    (makes.roomy within).evaluation_ne_circular within formula⟩, fun cell isFormula => ?_⟩
  · rw [calculate_eq, within.cyclic_eq_nil]
    rfl
  · obtain ⟨source, formula⟩ := Option.isSome_iff_exists.mp isFormula
    have there : (Pass.start sheet).sheet.source? cell = some source := formula
    obtain ⟨text, gives⟩ := Pass.exists_text_of_compute there 0
    have shown : (sheet.calculate defaultMaxReads).1.shownAt cell = .ok text := by
      -- In the end all cells are known, and as what they give on their own.
      have agrees := within.visiting_agrees sheet.graph.schedule.order
      have shows := agrees.known cell _ (sheet.known_recalculation defaultMaxReads cell)
      rw [calculate_eq]
      exact shows.trans gives
    refine ⟨text, shown, ?_, fun other alike => ?_⟩
    · obtain ⟨call, result, makes, same, stores, plain, shows⟩ := within.exists_stored formula
      exact ⟨call, result, makes, same, stores, plain, Except.ok.inj (shown.symm.trans shows)⟩
    · -- A pass over the other sheet starts with what these cells give, too.
      have computed := (Pass.compute_gives within (Pass.agrees_start alike defaultMaxReads)
        (within.room cell)).text.trans gives
      have there : other.isFormula cell = true := (alike.isFormula cell).symm.trans isFormula
      rw [evaluateCell, if_pos there]
      dsimp only
      rw [computed]
      exact ⟨_, rfl⟩

/-- A row of three cells: the first adds up the other two, the second refers to the third, and the
third holds a truth value. -/
def ranged : Sheet := ⟨1, 3, #[⟨"=sum(B1..C1)", ""⟩, ⟨"=C1", ""⟩, ⟨"=True", ""⟩], rfl⟩

/-- The formulas of the row. -/
theorem formulas_ranged : ranged.formulas =
    [(⟨1, 1⟩, "sum(B1..C1)"), (⟨1, 2⟩, "C1"), (⟨1, 3⟩, "True")] := by
  decide

/-- The expressions of the row. -/
theorem parse_ranged :
    Formula.parseSource "sum(B1..C1)" = .ok (.call "sum" [.range "B1" "C1"]) ∧
      Formula.parseSource "C1" = .ok (.cell "C1") ∧
      Formula.parseSource "True" = .ok (.literal (.boolean true)) := by
  have cut : Formula.pieces "sum(B1..C1)".toList =
      [.token (.plain .identifier "sum".toList), .token (.plain .parenLeft ['(']),
        .token (.plain .cell ['B', '1']), .token (.plain .dotDot ['.', '.']),
        .token (.plain .cell ['C', '1']), .token (.plain .parenRight [')'])] :=
    Formula.pieces_cons rfl <| Formula.pieces_cons rfl <| Formula.pieces_cons rfl <|
      Formula.pieces_cons rfl <| Formula.pieces_cons rfl <| Formula.pieces_cons rfl
      Formula.pieces_nil
  -- The other two formulas are a single token each.
  refine ⟨?_, ?_, ?_⟩
  · rw [Formula.parseSource, Formula.tokenize_of_pieces cut rfl rfl]
    rfl
  · rw [Formula.parseSource, Formula.tokenize_of_scanPiece rfl rfl]
    rfl
  · rw [Formula.parseSource, Formula.tokenize_of_scanPiece rfl rfl]
    rfl

/-- In the row formulas depend on formulas in later columns. -/
theorem onward_ranged {cell other : Address} (depends : ranged.Depends cell other) :
    cell.col.toNat < other.col.toNat ∧ other.col.toNat ≤ 3 := by
  obtain ⟨sum, reference, truth⟩ := parse_ranged
  rcases depends with ⟨source, formula, named, _⟩ |
    ⟨source, expr, range, formula, parsed, ⟨first, last, leaf, resolved⟩, inside, _⟩
  -- Whichever way it depends, the formula is one of the three that are listed.
  all_goals
    have listed := mem_formulas.mpr formula
    simp only [formulas_ranged, List.mem_cons, Prod.mk.injEq, List.not_mem_nil, or_false] at listed
  · -- The references are the cells that the expressions name.
    rcases listed with ⟨rfl, rfl⟩ | ⟨rfl, rfl⟩ | ⟨rfl, rfl⟩
    · have two : Formula.references "sum(B1..C1)" = [⟨1, 2⟩, ⟨1, 3⟩] :=
        (Formula.references_eq_named sum).trans (by decide)
      simp only [two, List.mem_cons, List.not_mem_nil, or_false] at named
      rcases named with rfl | rfl <;> decide
    · have one : Formula.references "C1" = [⟨1, 3⟩] :=
        (Formula.references_eq_named reference).trans (by decide)
      rw [one, List.mem_singleton] at named
      subst named
      decide
    · have none : Formula.references "True" = [] :=
        (Formula.references_eq_named truth).trans (by decide)
      rw [none] at named
      exact absurd named List.not_mem_nil
  · -- Only the first formula has a range.
    rcases listed with ⟨rfl, rfl⟩ | ⟨rfl, rfl⟩ | ⟨rfl, rfl⟩
    · obtain rfl := Except.ok.inj (sum.symm.trans parsed)
      obtain ⟨rfl, rfl⟩ : first = "B1" ∧ last = "C1" := by
        simpa [Formula.Expr.leaves, Formula.Expr.leavesOfAll] using leaf
      have spanned : Formula.resolveRange "B1" "C1" =
          .ok (.range (Range.ofCorners ⟨1, 2⟩ ⟨1, 3⟩)) := by decide
      obtain rfl : _ = range := Value.range.inj (Except.ok.inj (spanned.symm.trans resolved))
      obtain ⟨_, left, right⟩ := Range.contains_iff.mp inside
      exact ⟨left, right⟩
    · obtain rfl := Except.ok.inj (reference.symm.trans parsed)
      simp [Formula.Expr.leaves] at leaf
    · obtain rfl := Except.ok.inj (truth.symm.trans parsed)
      simp [Formula.Expr.leaves] at leaf

/-- The formulas of the row are not high. -/
theorem heightAt_ranged_le (cell : Address) : ranged.heightAt cell ≤ 2 := by
  obtain ⟨sum, reference, truth⟩ := parse_ranged
  -- A cell that is not one of the three formulas has no height.
  cases formula : ranged.source? cell with
  | none => simp [heightAt, formula]
  | some source =>
    have listed := mem_formulas.mpr formula
    simp only [formulas_ranged, List.mem_cons, Prod.mk.injEq, List.not_mem_nil, or_false] at listed
    rw [heightAt_of_source formula]
    rcases listed with ⟨_, rfl⟩ | ⟨_, rfl⟩ | ⟨_, rfl⟩
    · rw [Formula.sourceHeight, sum]
      decide
    · rw [Formula.sourceHeight, reference]
      decide
    · rw [Formula.sourceHeight, truth]
      decide

/-- The sum of the row is evaluated in order and on demand alike. -/
theorem calculate_eq_evaluateCell_ranged :
    ranged.WithinCeilings defaultMaxReads ∧ ranged.isFormula ⟨1, 1⟩ = true ∧ ∃ text,
      (ranged.calculate defaultMaxReads).1.shownAt ⟨1, 1⟩ = .ok text ∧
        (∃ result, result ≠ .error (.eval .circular) ∧ text = Pass.rendered result) ∧
        ∀ other, ranged.Alike other → ∃ after, other.evaluateCell ⟨1, 1⟩ = .ok (text, after) := by
  have within : ranged.WithinCeilings defaultMaxReads :=
    withinCeilings_of_rank (fun _ _ => onward_ranged) heightAt_ranged_le (by decide) (by decide)
  have isFormula : ranged.isFormula ⟨1, 1⟩ = true := by decide
  obtain ⟨text, shown, ⟨_, result, _, _, _, plain, same⟩, demanded⟩ :=
    (calculate_eq_evaluateCell within).2 ⟨1, 1⟩ isFormula
  exact ⟨within, isFormula, text, shown, ⟨result, plain, same⟩, demanded⟩

end Sheet

end Spreadsheet
