import Spreadsheet.Proofs.Formula.References
import Spreadsheet.Proofs.Number
import Spreadsheet.Proofs.Sheet.Lasting

/-! Formulas that are plain references show what the cell shows that they refer to, read as a value;
a number goes along a chain of them unchanged. -/

namespace Spreadsheet

open Formula (Builtin.registry Fault Read Reading)
open Relation (ReflTransGen TransGen)

/-- The value of a cell's text is shown as it is written: it is no range. -/
theorem Value.display_ofCellText (text : String) :
    (ofCellText text).display = .ok (ofCellText text).written := by
  unfold ofCellText
  split
  · rfl
  · split <;> rfl

namespace Formula

variable {source text : String} {self other : Address} {maxReads : Nat}

/-- A plain reference refers to the cell that it names and to no other one. -/
theorem mem_references_of_cell (parsed : parseSource source = .ok (.cell text))
    (named : Address.parse text = .ok other) {address : Address} :
    address ∈ references source ↔ address = other := by
  have single : (Expr.cell text).named.filterMap (fun text => (Address.parse text).toOption) =
      [other] := by
    simp [Expr.named, named, Except.toOption]
  rw [references_eq_named parsed, single, List.mem_eraseDups, List.mem_singleton]

/-- A plain reference asks for the cell that it names, and what it comes to is the value of the text
that it is told. -/
theorem evaluateSource_of_cell (parsed : parseSource source = .ok (.cell text))
    (named : Address.parse text = .ok other) (distinct : other ≠ self) (room : 1 ≤ maxReads) :
    evaluateSource ⟨self, Builtin.registry, maxReads⟩ source ⟨0, 0⟩ =
      .ask ⟨other, ⟨1, 1⟩⟩ fun answer =>
        .done ((answer.map Value.ofCellText).mapError .eval, ⟨0, 0⟩) := by
  have below : ¬ maxReads ≤ 0 := by omega
  rw [evaluateSource_of_parse parsed, evaluate_cell named (by decide), if_neg distinct,
    if_neg below]
  rfl

end Formula

namespace Sheet

variable {sheet : Sheet} {cell other first last : Address} {maxReads : Nat} {call : Pass.Call}
  {source : String}

/-- A formula is a plain reference to a cell. -/
def Repeats (sheet : Sheet) (cell other : Address) : Prop :=
  ∃ source text, sheet.source? cell = some source ∧
    Formula.parseSource source = .ok (.cell text) ∧ Address.parse text = .ok other

/-- A formula that is written as an address is a plain reference to it. -/
theorem repeats_of_address (formula : sheet.source? cell = some source)
    (named : Address.parse source = .ok other) : sheet.Repeats cell other :=
  ⟨source, source, formula, Formula.parseSource_address named, named⟩

/-- A plain reference refers to nothing but its cell. -/
theorem Repeats.eq_of_refers (repeats : sheet.Repeats cell other) {next : Address}
    (refers : sheet.graph.Refers cell next) : next = other := by
  obtain ⟨source, text, formula, parsed, named⟩ := repeats
  obtain ⟨same, there, mentioned, _⟩ := refers_graph_iff.mp refers
  obtain rfl := Option.some.inj (formula.symm.trans there)
  exact (Formula.mem_references_of_cell parsed named).mp mentioned

/-- A plain reference to a cell that is apart from cycles is apart from them itself. -/
theorem Repeats.apart (repeats : sheet.Repeats cell other) (apart : sheet.graph.Apart other) :
    sheet.graph.Apart cell := by
  -- Every way from the formula goes on through the only cell that it refers to.
  have onward : ∀ goal, TransGen sheet.graph.Refers cell goal →
      sheet.graph.Refers cell other ∧ ReflTransGen sheet.graph.Refers other goal := by
    intro goal path
    obtain ⟨next, edge, rest⟩ := TransGen.head'_iff.mp path
    obtain rfl := repeats.eq_of_refers edge
    exact ⟨edge, rest⟩
  refine ⟨fun onCycle => ?_, fun between => ?_⟩
  · obtain ⟨edge, rest⟩ := onward cell (Graph.onCycle_iff.mp onCycle)
    exact apart.offCycle (Graph.onCycle_iff.mpr (TransGen.tail' rest edge))
  · obtain ⟨_, ⟨origin, behindOn, behind⟩, ⟨goal, aheadOn, ahead⟩⟩ := between
    obtain ⟨edge, rest⟩ := onward goal ahead
    rcases Relation.reflTransGen_iff_eq_or_transGen.mp rest with rfl | further
    · exact apart.offCycle aheadOn
    · exact apart.notBetween
        ⟨apart.offCycle, ⟨origin, behindOn, behind.tail edge⟩, ⟨goal, aheadOn, further⟩⟩

/-- When a plain reference to a cell apart from cycles is visited, the text of that cell is
known. -/
theorem Repeats.known_of_visits (repeats : sheet.Repeats call.address other)
    (apart : sheet.graph.Apart other) (distinct : other ≠ call.address)
    (visits : sheet.Visits maxReads call) : call.pass.known other ≠ none := by
  have offCycle := (repeats.apart apart).offCycle
  obtain ⟨source, text, formula, parsed, named⟩ := repeats
  obtain ⟨before, after, order, _, pass, _⟩ := visits
  have reached := sheet.visiting_reached maxReads before
  rw [pass]
  intro unknown
  -- A text that is not known would be that of a formula, which has had its turn before.
  have isFormula := (Pass.known_start sheet other).mp (reached.grows.unknown unknown)
  have refers : sheet.graph.Refers call.address other := refers_graph_iff.mpr
    ⟨source, formula, (Formula.mem_references_of_cell parsed named).mpr rfl, isFormula, distinct⟩
  have early := graph_tidy.mem_before_of_refers offCycle apart order refers
  exact reached.known other (List.mem_append_right _ early) unknown

/-- What is stored for a plain reference to a cell apart from cycles is its value on the sheet in
the end. -/
theorem Repeats.result_eq (repeats : sheet.Repeats call.address other)
    (apart : sheet.graph.Apart other) (distinct : other ≠ call.address) (room : 1 ≤ maxReads)
    (formula : sheet.source? call.address = some source) (makes : sheet.Makes maxReads call)
    {result : Except Fault String} (stores : call.Stores maxReads result) :
    result = Formula.displayed
      ((sheet.recalculation maxReads).sheet.valueFrom maxReads call.address source) := by
  -- A result that is not circular outlasts the pass; a circular one has to be ruled out or
  -- explained.
  by_cases circular : result = .error (.eval .circular)
  · -- Only a visit would store this, and then the text of the cell is known.
    have visits : sheet.Visits maxReads call := makes.visits_of_circular (circular ▸ stores)
    have known := repeats.known_of_visits apart distinct visits
    refine visits.result_eq_of_known formula ?_ stores
    obtain ⟨same, text, there, parsed, named⟩ := repeats
    obtain rfl := Option.some.inj (formula.symm.trans there)
    obtain ⟨_, _, _, depth, _, _⟩ := visits
    rw [Pass.Call.evaluation, depth, Formula.evaluateSource_of_cell parsed named distinct room]
    exact ⟨known, fun _ => trivial⟩
  · exact makes.result_eq formula stores circular

/-- The value of a plain reference is that of the text of its cell. -/
theorem displayed_valueFrom_of_cell {name text : String}
    (parsed : Formula.parseSource source = .ok (.cell name))
    (named : Address.parse name = .ok other) (distinct : other ≠ cell) (room : 1 ≤ maxReads)
    (shows : sheet.shownAt other = .ok text) :
    Formula.displayed (sheet.valueFrom maxReads cell source) =
      .ok (Value.ofCellText text).written := by
  have value : sheet.valueFrom maxReads cell source = .ok (Value.ofCellText text) := by
    rw [valueFrom, Formula.evaluateSource_of_cell parsed named distinct room, Reading.run, shows]
    rfl
  rw [value, Formula.displayed, Value.display_ofCellText]
  rfl

/-- After a recalculation a plain reference to a cell apart from cycles shows the text of that cell,
read as a value and written. -/
theorem Repeats.shownAt (repeats : sheet.Repeats cell other) (apart : sheet.graph.Apart other)
    (distinct : other ≠ cell) (room : 1 ≤ maxReads) {text : String}
    (shows : (sheet.calculate maxReads).1.shownAt other = .ok text) :
    (sheet.calculate maxReads).1.shownAt cell = .ok (Value.ofCellText text).written := by
  have ⟨source, name, formula, parsed, named⟩ := repeats
  obtain ⟨call, result, makes, rfl, stores, shown⟩ :=
    exists_stored maxReads formula (repeats.apart apart).offCycle
  rw [calculate_eq] at shows ⊢
  rw [shown, repeats.result_eq apart distinct room formula makes stores,
    displayed_valueFrom_of_cell parsed named distinct room shows]
  rfl

/-- A cell that shows a number after a recalculation is on no cycle: the circular marker is read as
a text. -/
theorem not_onCycle_of_shows {text : String} {number : Float}
    (shows : (sheet.calculate maxReads).1.shownAt cell = .ok text)
    (read : Value.ofCellText text = .number number) : ¬ sheet.graph.OnCycle cell := by
  intro onCycle
  rw [calculate_eq, shownAt_of_onCycle maxReads onCycle] at shows
  obtain rfl := Except.ok.inj shows
  have marker : Value.ofCellText Formula.circularMarker = .text Formula.circularMarker := rfl
  exact nomatch marker.symm.trans read

/-- Only formulas are between cycles. -/
theorem isFormula_of_between (between : sheet.graph.BetweenCycles cell) :
    sheet.isFormula cell = true := by
  obtain ⟨_, _, ⟨_, _, ahead⟩⟩ := between
  obtain ⟨_, edge, _⟩ := TransGen.head'_iff.mp ahead
  exact mem_nodes_graph.mp edge.cell_mem

/-- A shown number is read as a number that is shown alike, unless it is infinite; so along a chain
of plain references, however long, every cell shows it after a recalculation. What the chain starts
with may be any cell except a formula between two cycles. -/
theorem number_survives (number : Float) (finite : number.isInf = false) :
    (∃ x, Value.ofCellText (Number.text number) = .number x ∧
        Number.text x = Number.text number) ∧
      ∀ (sheet : Sheet) (maxReads : Nat) (first last : Address), 1 ≤ maxReads →
        (sheet.calculate maxReads).1.shownAt first = .ok (Number.text number) →
        (sheet.isFormula first = true → ¬ sheet.graph.BetweenCycles first) →
        ReflTransGen sheet.Repeats last first →
        (sheet.calculate maxReads).1.shownAt last = .ok (Number.text number) := by
  obtain ⟨x, read, alike⟩ := Number.exists_ofCellText_text finite
  refine ⟨⟨x, read, alike⟩, fun sheet maxReads first last room shows outside chain => ?_⟩
  have start : sheet.graph.Apart first :=
    ⟨not_onCycle_of_shows shows read, fun between => outside (isFormula_of_between between) between⟩
  -- The induction goes up the chain, whose cells are all apart from cycles.
  have along : sheet.graph.Apart last ∧
      (sheet.calculate maxReads).1.shownAt last = .ok (Number.text number) := by
    induction chain using ReflTransGen.head_induction_on with
    | refl => exact ⟨start, shows⟩
    | @head cell next repeats _ ih =>
      obtain ⟨apart, shown⟩ := ih
      refine ⟨repeats.apart apart, ?_⟩
      by_cases same : next = cell
      · exact same ▸ shown
      · rw [repeats.shownAt apart same room shown, read]
        exact congrArg Except.ok alike
  exact along.2

/-- The double nearest to a third. -/
def third : Float := Float.ofBits 0x3FD5555555555555

/-- A third is shown with six places. -/
theorem text_third : Number.text third = "0.333333" := by
  decide +kernel

/-- A row of three cells: a third as it is shown, and two plain references in a chain. -/
def thirds : Sheet := ⟨1, 3, #[⟨"0.333333", "0.333333"⟩, ⟨"=A1", ""⟩, ⟨"=B1", ""⟩], rfl⟩

/-- The references of the row lead from its last cell to its first one. -/
theorem repeats_thirds : ReflTransGen thirds.Repeats ⟨1, 3⟩ ⟨1, 1⟩ := by
  have named : Address.parse "A1" = .ok ⟨1, 1⟩ := by decide
  have namedToo : Address.parse "B1" = .ok ⟨1, 2⟩ := by decide
  have first : thirds.Repeats ⟨1, 2⟩ ⟨1, 1⟩ := repeats_of_address (by decide) named
  have second : thirds.Repeats ⟨1, 3⟩ ⟨1, 2⟩ := repeats_of_address (by decide) namedToo
  exact .head second (.single first)

/-- The third is shown at the end of the row as at its start. -/
theorem number_survives_thirds : third.isInf = false ∧
    (∃ x, Value.ofCellText "0.333333" = .number x ∧ Number.text x = "0.333333") ∧
    (thirds.calculate 1).1.shownAt ⟨1, 3⟩ = .ok "0.333333" := by
  have finite : third.isInf = false := by decide +kernel
  obtain ⟨read, survives⟩ := number_survives third finite
  have start : (thirds.calculate 1).1.shownAt ⟨1, 1⟩ = .ok (Number.text third) := by
    rw [shownAt_calculate_of_plain (by decide), text_third]
    decide
  -- The chain starts with a number, so it does not matter where formulas stand to cycles.
  have plain : thirds.isFormula ⟨1, 1⟩ = true → ¬ thirds.graph.BetweenCycles ⟨1, 1⟩ := by
    intro isFormula
    exact absurd isFormula (by decide)
  have stop := survives thirds 1 ⟨1, 1⟩ ⟨1, 3⟩ (le_refl 1) start plain repeats_thirds
  rw [text_third] at read stop
  exact ⟨finite, read, stop⟩

end Sheet

end Spreadsheet
