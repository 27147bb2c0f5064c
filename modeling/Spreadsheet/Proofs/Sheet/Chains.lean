import Spreadsheet.Proofs.Formula.Ceiling
import Spreadsheet.Proofs.Formula.Mentions
import Spreadsheet.Proofs.Formula.Room
import Spreadsheet.Proofs.Sheet.Ledger

/-! Sheets without ranges in which no reference leads back: every formula is computed on its own,
however long the chains of references are. -/

namespace Spreadsheet

open Formula (Builtin.registry EvalFault Fault Read Reading maxNodes)
open Relation (TransGen)

namespace Formula

/-- Under honest answers, a source is circular by itself only if its expression is higher than the
ceiling on expressions. -/
theorem exists_high_of_circular {σ : Type} {source : String} {self : Address} {maxReads : Nat}
    (room : 1 ≤ maxReads) {answer : Read → σ → Except EvalFault String × σ}
    (honest : ∀ read state, (answer read state).1 ≠ .error .circular) {state : σ}
    (circular : ((evaluateSource ⟨self, Builtin.registry, maxReads⟩ source ⟨0, 0⟩).run answer
      state).1.1 = .error (.eval .circular)) :
    ∃ expr, parseSource source = .ok expr ∧ maxNodes < expr.height := by
  rw [evaluateSource_eq_bounded _ Builtin.registry_passesOn, Reading.run_bind] at circular
  have start : (⟨0, 0⟩ : Depth).reads < maxReads := room
  have stopped := (Course.run_bounded_eq_stop_iff
    (sourceCourse_passesOn Builtin.registry_passesOn self source) honest start (Nat.zero_le _)
    state).mp circular
  unfold sourceCourse at stopped
  cases parsed : parseSource source with
  | error fault =>
    -- A text that is no expression has none in progress.
    rw [parsed] at stopped
    exact absurd stopped (Nat.not_lt_zero _)
  | ok expr =>
    rw [parsed] at stopped
    have within : ((evaluateFreely self Builtin.registry 0 expr).course.map staged).Within
        (0 + expr.height) :=
      Course.Within.bind (evaluateFreely_within self Builtin.registry expr 0) fun _ => trivial
    have deepest := within.deepest_le answer ⟨0, 0⟩ state
    dsimp only at stopped
    exact ⟨expr, rfl, by omega⟩

end Formula

namespace Pass

variable {α : Type} {maxReads : Nat} {pass after : Pass} {reading : Reading Read α}

/-- A run that asks for known texts only leaves the pass as it is, and goes as it would if it were
told these texts. -/
theorem run_of_known {texts : Address → Except EvalFault String}
    (known : reading.Holds (fun read => pass.known read.address = some (texts read.address))
      fun _ => True) :
    reading.run (answer maxReads) pass =
      ((reading.run (fun read state => (texts read.address, state)) ()).1, pass) := by
  -- The pass stays the same from answer to answer, so what is known of it does, too.
  have answers : ∀ (read : Read) (now : Pass), pass.known read.address = some (texts read.address) →
      now = pass → (answer maxReads read now).1 = texts read.address ∧
        (answer maxReads read now).2 = pass := by
    rintro read _ found rfl
    rw [answer_of_known read found]
    exact ⟨rfl, rfl⟩
  obtain ⟨told, stays⟩ := Reading.run_of_invariant known answers rfl
  exact Prod.ext told stays

/-- A run that asks for known texts only meets no text that is not known. -/
theorem known_of_meets {read : Read}
    (known : reading.Holds (fun read => pass.known read.address ≠ none) fun _ => True)
    (meets : reading.Meets (answer maxReads) pass read after) :
    after.known read.address ≠ none := by
  -- A text that is known is told at once, and the pass is the same afterwards.
  have answers : ∀ (read : Read) (now : Pass), pass.known read.address ≠ none → now = pass →
      (answer maxReads read now).2 = pass := by
    rintro read _ told rfl
    obtain ⟨text, found⟩ := Option.ne_none_iff_exists'.mp told
    rw [answer_of_known read found]
  obtain ⟨told, rfl⟩ := meets.invariant known answers rfl
  exact told

end Pass

namespace Sheet

variable {sheet : Sheet} {maxReads : Nat} {call : Pass.Call} {source : String}

/-- No formula of a sheet has two dots among its tokens. -/
def Dotless (sheet : Sheet) : Prop :=
  ∀ address source tokens, sheet.source? address = some source →
    Formula.tokenize source = .ok tokens → ∀ token ∈ tokens, token.kind ≠ .dotDot

/-- No formula of a sheet refers to itself through others. -/
def Acyclic (sheet : Sheet) : Prop :=
  ∀ cell, ¬ TransGen sheet.Refers cell cell

/-- Where no reference leads back in a sheet, none does so in its graph. -/
theorem Acyclic.graph (acyclic : sheet.Acyclic) (cell : Address) :
    ¬ TransGen sheet.graph.Refers cell cell := fun path =>
  acyclic cell (TransGen.mono (fun _ _ => refers_graph_iff.mp) _ _ path)

/-- Between a visit and the end of a recalculation the pass grows. -/
theorem Visits.grows (visits : sheet.Visits maxReads call) :
    Pass.Grows call.pass (sheet.recalculation maxReads) := by
  obtain ⟨before, after, order, _, pass, _⟩ := visits
  have reached := sheet.visiting_reached maxReads before
  -- The rest of the order is visited from where the pass is then.
  have rest : sheet.recalculation maxReads =
      (call.address :: after).foldl (Pass.visit maxReads) (sheet.visiting maxReads before) := by
    rw [recalculation, order, visiting, visiting, List.foldl_append]
  rw [pass, rest]
  exact (Pass.visits_reached reached.sound _).grows

/-- A formula is visited with the source that it has on the sheet. -/
theorem Visits.source? (visits : sheet.Visits maxReads call) :
    call.pass.sheet.source? call.address = sheet.source? call.address := by
  obtain ⟨before, _, _, _, pass, _⟩ := visits
  rw [pass]
  exact (sheet.visiting_reached maxReads before).grows.sources call.address

/-- A formula that asks only for known texts when it is visited comes to its value on the sheet in
the end. -/
theorem Visits.result_eq_of_known (visits : sheet.Visits maxReads call)
    (formula : sheet.source? call.address = some source)
    (asks : (call.evaluation maxReads source).Holds
      (fun read => call.pass.known read.address ≠ none) fun _ => True)
    {result : Except Fault String} (stores : call.Stores maxReads result) :
    result = Formula.displayed
      ((sheet.recalculation maxReads).sheet.valueFrom maxReads call.address source) := by
  obtain ⟨same, stays, ran, _⟩ := stores
  rw [visits.source?, formula, Option.some.injEq] at stays
  subst stays
  -- What is known at the visit is still shown in the end.
  have known := asks.mono
    (fun read (found : call.pass.known read.address ≠ none) => by
      obtain ⟨text, found⟩ := Option.ne_none_iff_exists'.mp found
      have later := Pass.textAt_of_known (visits.grows.known _ _ found)
      exact found.trans (congrArg some later.symm)) fun _ _ => trivial
  obtain ⟨_, _, _, depth, _, _⟩ := visits
  -- So the run is the evaluation under the answers of the sheet in the end.
  rw [Pass.run_of_known known, Pass.Call.evaluation, depth] at ran
  rw [← ran, Reading.run_bind]
  rfl

section Chains

variable (dotless : sheet.Dotless) (acyclic : sheet.Acyclic)

include dotless acyclic

/-- A formula that is visited asks only for texts that are known by then. -/
theorem Visits.holds_known (visits : sheet.Visits maxReads call)
    (formula : sheet.source? call.address = some source) :
    (call.evaluation maxReads source).Holds (fun read => call.pass.known read.address ≠ none)
      fun _ => True := by
  obtain ⟨before, after, order, _, pass, _⟩ := visits
  have reached := sheet.visiting_reached maxReads before
  have asks := Formula.textCourse_asks_references (fun tokens => dotless _ source tokens formula)
    call.address
  -- The ceilings leave out some of what the source asks for, and add nothing.
  rw [Pass.Call.evaluation_eq]
  refine (asks.bounded _ maxReads call.depth).mono (fun read asked => ?_) fun _ _ => trivial
  intro unknown
  rw [pass] at unknown
  -- A text that is not known would be that of a formula, which has had its turn before.
  have isFormula : sheet.isFormula read.address = true := by
    have found := (Pass.known_eq_none_iff.mp unknown).1
    rw [Sheet.isFormula, reached.grows.sources] at found
    exact found
  have refers : sheet.graph.Refers call.address read.address :=
    refers_graph_iff.mpr ⟨source, formula, asked.1, isFormula, asked.2⟩
  have apart := Graph.apart_of_acyclic acyclic.graph
  have early := graph_tidy.mem_before_of_refers (apart _).offCycle (apart _) order refers
  exact reached.known read.address (List.mem_append_right _ early) unknown

/-- A formula that is visited starts no computation of another one. -/
theorem Visits.not_starts (visits : sheet.Visits maxReads call) (inner : Pass.Call) :
    ¬ call.Starts maxReads inner := by
  intro starts
  obtain ⟨source, formula, meets, isFormula, unsettled⟩ := starts
  -- A computation that is started is one of a formula that is not known.
  rw [visits.source?] at formula
  exact Pass.known_of_meets (visits.holds_known dotless acyclic formula) meets
    (Pass.known_eq_none_iff.mpr ⟨isFormula, unsettled⟩)

/-- All computations are made in the order. -/
theorem Makes.visits (makes : sheet.Makes maxReads call) : sheet.Visits maxReads call := by
  obtain ⟨visit, visits, within⟩ := makes
  -- A chain of computations that leads on would start with a visit that starts another one.
  rcases Relation.ReflTransGen.cases_head_iff.mp within with rfl | ⟨inner, starts, _⟩
  · exact visits
  · exact absurd starts (visits.not_starts dotless acyclic inner)

/-- What a formula that is visited comes to is its value on the sheet in the end. -/
theorem Visits.result_eq (visits : sheet.Visits maxReads call)
    (formula : sheet.source? call.address = some source) {result : Except Fault String}
    (stores : call.Stores maxReads result) : result = Formula.displayed
      ((sheet.recalculation maxReads).sheet.valueFrom maxReads call.address source) :=
  visits.result_eq_of_known formula (visits.holds_known dotless acyclic formula) stores

/-- Without ranges and circular references a recalculation computes every formula on its own, and
each shows its value, taken anew from the sheet as it is in the end; for chains of references there
is no ceiling, so that only an expression that is too high by itself is circular. -/
theorem calculate_of_acyclic (maxReads : Nat) :
    (∀ outer inner, sheet.Makes maxReads outer → ¬ outer.Starts maxReads inner) ∧
      ∀ address source, sheet.source? address = some source →
        let final := (sheet.calculate maxReads).1
        final.shownAt address =
            .ok (Formula.shown (final.valueFrom maxReads address source)) ∧
          (1 ≤ maxReads → final.valueFrom maxReads address source = .error (.eval .circular) →
            ∃ expr, Formula.parseSource source = .ok expr ∧ maxNodes < expr.height) := by
  refine ⟨fun outer inner makes =>
    (makes.visits dotless acyclic).not_starts dotless acyclic inner, ?_⟩
  intro address source formula final
  have final_eq : final = (sheet.recalculation maxReads).sheet :=
    congrArg Prod.fst (sheet.calculate_eq maxReads)
  rw [final_eq]
  refine ⟨?_, fun room circular => ?_⟩
  · obtain ⟨stores, account, stored⟩ := sheet.accounts_recalculation maxReads
    -- No cell is marked, so the formula is among those stored.
    have settled := (mem_stored account).mpr (Option.isSome_iff_exists.mpr ⟨source, formula⟩)
    rw [graph_tidy.cyclic_eq_nil acyclic.graph, List.nil_append] at settled
    obtain ⟨⟨cell, result⟩, member, rfl⟩ := List.mem_map.mp settled
    obtain ⟨call, makes, rfl, comesTo⟩ := (stored cell result).mp member
    have visits := makes.visits dotless acyclic
    have shows := Pass.textAt_of_known (account.shows _ member)
    rw [visits.result_eq dotless acyclic formula comesTo] at shows
    refine Eq.trans shows ?_
    unfold Pass.rendered Formula.shown
    rfl
  · -- What a sheet shows is never the circular fault.
    refine Formula.exists_high_of_circular room (fun read state => ?_) circular
    exact Pass.textAt_ne_circular

end Chains

/-- A row of three cells: each refers to the next one, and the last holds a truth value. -/
def chain : Sheet := ⟨1, 3, #[⟨"=B1", ""⟩, ⟨"=C1", ""⟩, ⟨"=True", ""⟩], rfl⟩

/-- The formulas of the row. -/
theorem formulas_chain : chain.formulas =
    [(⟨1, 1⟩, "B1"), (⟨1, 2⟩, "C1"), (⟨1, 3⟩, "True")] := by
  decide

/-- The tokens of its three sources. -/
theorem tokenize_chain :
    Formula.tokenize "B1" = .ok [.plain .cell ['B', '1'], .endOfText] ∧
      Formula.tokenize "C1" = .ok [.plain .cell ['C', '1'], .endOfText] ∧
      Formula.tokenize "True" = .ok [.plain .trueWord "True".toList, .endOfText] :=
  ⟨Formula.tokenize_of_scanPiece rfl rfl, Formula.tokenize_of_scanPiece rfl rfl,
    Formula.tokenize_of_scanPiece rfl rfl⟩

/-- No formula of the row has two dots. -/
theorem dotless_chain : chain.Dotless := by
  intro address source tokens formula scanned
  -- The three sources are scanned to one token each before the end of the text.
  have listed := mem_formulas.mpr formula
  obtain ⟨first, second, third⟩ := tokenize_chain
  simp only [formulas_chain, List.mem_cons, Prod.mk.injEq, List.not_mem_nil, or_false] at listed
  rcases listed with ⟨_, rfl⟩ | ⟨_, rfl⟩ | ⟨_, rfl⟩
  · rw [← Except.ok.inj (first.symm.trans scanned)]
    decide
  · rw [← Except.ok.inj (second.symm.trans scanned)]
    decide
  · rw [← Except.ok.inj (third.symm.trans scanned)]
    decide

/-- Along the row references lead to later columns. -/
theorem acyclic_chain : chain.Acyclic := by
  -- There are two references, and both lead from a column to the next one.
  have onward : ∀ cell other, chain.Refers cell other → cell.col < other.col := by
    intro cell other refers
    obtain ⟨source, formula, named, _⟩ := refers
    have listed := mem_formulas.mpr formula
    obtain ⟨first, second, third⟩ := tokenize_chain
    have first : Formula.references "B1" = [⟨1, 2⟩] := by
      rw [Formula.references, first]
      rfl
    have second : Formula.references "C1" = [⟨1, 3⟩] := by
      rw [Formula.references, second]
      rfl
    have third : Formula.references "True" = [] := by
      rw [Formula.references, third]
      rfl
    simp only [formulas_chain, List.mem_cons, Prod.mk.injEq, List.not_mem_nil, or_false] at listed
    rcases listed with ⟨rfl, rfl⟩ | ⟨rfl, rfl⟩ | ⟨rfl, rfl⟩
    · rw [first, List.mem_singleton] at named
      subst named
      decide
    · rw [second, List.mem_singleton] at named
      subst named
      decide
    · rw [third] at named
      exact (List.not_mem_nil named).elim
  intro cell path
  have further : TransGen (· < ·) cell.col cell.col := TransGen.lift Address.col onward _ _ path
  rw [Relation.transGen_eq_self] at further
  exact UInt32.lt_irrefl _ further

/-- With a ceiling of one read the row of two references is computed cell by cell. -/
theorem calculate_of_acyclic_chain :
    chain.Dotless ∧ chain.Acyclic ∧
      (∀ outer inner, chain.Makes 1 outer → ¬ outer.Starts 1 inner) ∧
      ∀ address source, chain.source? address = some source →
        let final := (chain.calculate 1).1
        final.shownAt address = .ok (Formula.shown (final.valueFrom 1 address source)) ∧
          (1 ≤ 1 → final.valueFrom 1 address source = .error (.eval .circular) →
            ∃ expr, Formula.parseSource source = .ok expr ∧ maxNodes < expr.height) :=
  ⟨dotless_chain, acyclic_chain, calculate_of_acyclic dotless_chain acyclic_chain 1⟩

end Sheet

end Spreadsheet
