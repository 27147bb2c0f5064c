import Mathlib.Logic.Relation
import Spreadsheet.Proofs.Formula.Mentions
import Spreadsheet.Proofs.Formula.Room
import Spreadsheet.Proofs.Sheet.Frame

/-! How far computing one cell reaches: it changes what formulas show that the cell leads to, and
nothing else. -/

namespace Spreadsheet

open Formula (Depth EvalFault Fault Read maxNodes)

namespace Sheet

/-- A formula of the sheet mentions a formula, be it by a reference or in a range. -/
def Mentions (sheet : Sheet) (cell other : Address) : Prop :=
  ∃ source expr, sheet.source? cell = some source ∧ Formula.parseSource source = .ok expr ∧
    expr.Mentions cell other ∧ sheet.isFormula other = true

/-- A cell leads to itself, and to the formulas that are mentioned where it leads. -/
def LeadsTo (sheet : Sheet) : Address → Address → Prop :=
  Relation.ReflTransGen sheet.Mentions

end Sheet

namespace Pass

variable {sheet : Sheet} {maxReads : Nat} {pass : Pass} {address other : Address} {source : String}
  {depth : Depth}

/-- Concluding the computation of a formula changes no other cell. -/
theorem cellAt?_conclude (elsewhere : other ≠ address) (reads : Nat)
    (result : Except Fault String) :
    (pass.conclude address reads result).2.sheet.cellAt? other = pass.sheet.cellAt? other := by
  -- A result that is given up changes nothing, and any other one is settled.
  by_cases dropped : result = .error (.eval .circular) ∧ 0 < reads
  · rw [dropped.1, conclude, if_pos ⟨rfl, dropped.2⟩]
  · rw [conclude_of_kept dropped pass address]
    exact (cellAt?_settle pass address _ other).trans (if_neg elsewhere)

/-- A formula asks for what its expression mentions, and each time deeper down. -/
theorem attempt_mentions (maxReads : Nat) (address : Address) (source : String) (depth : Depth) :
    (attempt maxReads address source depth).Holds
      (fun read => (∃ expr, Formula.parseSource source = .ok expr ∧
        expr.Mentions address read.address) ∧ Deeper depth read) fun _ => True := by
  have asks := (Formula.textCourse_mentions address source).bounded (.error (.eval .circular))
    maxReads depth
  exact (asks.and (attempt_deeper maxReads address source depth)).mono (fun _ both => both)
    fun _ _ => trivial

/-- A pass over a sheet that is alike, in which a cell is as it was in another pass. -/
structure Spares (sheet : Sheet) (other : Address) (before after : Pass) : Prop where
  alike : sheet.Alike after.sheet
  same : after.sheet.cellAt? other = before.sheet.cellAt? other

/-- To answer a request spares a cell if computing the formula that is asked for does. -/
theorem Spares.answer {later : Pass} (spares : Spares sheet other pass later) {read : Read}
    (computed : sheet.isFormula read.address = true →
      Spares sheet other later (later.compute maxReads read.address read.depth).2) :
    Spares sheet other pass (answer maxReads read later).2 := by
  cases found : later.known read.address with
  | some text =>
    rw [answer_of_known read found]
    exact spares
  | none =>
    -- Only a formula is not known.
    obtain ⟨source, formula⟩ := exists_source_of_unknown found
    rw [answer_of_unknown read found]
    have spared := computed (by rw [spares.alike.isFormula, Sheet.isFormula, formula]; rfl)
    exact ⟨spared.alike, spared.same.trans spares.same⟩

/-- Computing a cell spares every cell that it does not lead to. -/
theorem spares_compute (alike : sheet.Alike pass.sheet) (apart : ¬ sheet.LeadsTo address other) :
    Spares sheet other pass (pass.compute maxReads address depth).2 := by
  -- Every read is deeper, so the ceiling on expressions bounds the recursion.
  induction room : maxNodes - depth.nodes using Nat.strong_induction_on
    generalizing pass address depth with
  | _ remaining ih =>
    refine ⟨alike.trans (alike_compute maxReads address depth pass), ?_⟩
    cases formula : pass.sheet.source? address with
    | none => rw [compute_eq, formula]
    | some source =>
      have elsewhere : other ≠ address := fun same => apart (same ▸ .refl)
      rw [compute_of_source formula, cellAt?_conclude elsewhere]
      have start : Spares sheet other pass pass := ⟨alike, rfl⟩
      refine ((attempt_mentions maxReads address source depth).run_keeps
        (Spares sheet other pass) ?_ start).same
      intro read later request spares
      obtain ⟨⟨expr, parsed, mentions⟩, below, within⟩ := request
      refine spares.answer fun isFormula => ?_
      -- Where a mentioned formula leads, the one that mentions it leads as well.
      have mentioned : sheet.Mentions address read.address :=
        ⟨source, expr, (alike.source? address).trans formula, parsed, mentions, isFormula⟩
      have onward : ¬ sheet.LeadsTo read.address other := fun leads => apart (.head mentioned leads)
      exact ih (maxNodes - read.depth.nodes) (by omega) spares.alike onward rfl

end Pass

namespace Sheet

variable {sheet : Sheet} {address : Address}

/-- A cell without a formula is looked up, and nothing changes. -/
theorem evaluateCell_of_plain {cell : Cell} (found : sheet.cellAt? address = some cell)
    (plain : cell.isFormula = false) :
    sheet.evaluateCell address = .ok (cell.display, sheet) := by
  have none : sheet.isFormula address = false := by
    rw [isFormula, source?, found]
    exact plain
  rw [evaluateCell, if_neg (by simp [none]), cellAt?_eq_some_iff.mp found]
  rfl

/-- Computing a cell on its own is refused exactly outside the grid. A cell without a formula is
looked up, and nothing changes. A formula always ends with a text, which the cell shows afterwards;
beside it nothing changes but what formulas show that it leads to. -/
theorem evaluateCell_reports (sheet : Sheet) (address : Address) :
    ((∃ fault, sheet.evaluateCell address = .error fault) ↔ sheet.contains address = false) ∧
      (∀ cell, sheet.cellAt? address = some cell → cell.isFormula = false →
        sheet.evaluateCell address = .ok (cell.display, sheet)) ∧
      (sheet.isFormula address = true → ∃ text changed,
        sheet.evaluateCell address = .ok (text, changed) ∧
          (changed.cellAt? address).map Cell.display = some text ∧
          ((Pass.start sheet).compute Formula.defaultMaxReads address ⟨0, 0⟩).1 = .ok text ∧
          sheet.Alike changed ∧
          ∀ other, changed.cellAt? other ≠ sheet.cellAt? other →
            sheet.isFormula other = true ∧ sheet.LeadsTo address other) := by
  refine ⟨⟨?_, ?_⟩, ?_, ?_⟩
  · intro refused
    obtain ⟨fault, refused⟩ := refused
    by_contra inside
    obtain ⟨text, changed, done, _⟩ := evaluateCell_of_contains (by simpa using inside)
    exact nomatch done.symm.trans refused
  · intro outside
    obtain ⟨fault, _, refused⟩ := evaluateCell_of_not_contains outside
    exact ⟨fault, refused⟩
  · intro cell found plain
    exact evaluateCell_of_plain found plain
  · intro isFormula
    obtain ⟨source, formula⟩ := Option.isSome_iff_exists.mp isFormula
    have there : (Pass.start sheet).sheet.source? address = some source := formula
    -- A formula that is computed within no other one always ends with a text.
    obtain ⟨text, gives, shows⟩ :=
      Pass.exists_shown_of_compute there Formula.defaultMaxReads 0
    have done : sheet.evaluateCell address = .ok (text,
        ((Pass.start sheet).compute Formula.defaultMaxReads address ⟨0, 0⟩).2.sheet) := by
      rw [evaluateCell, if_pos isFormula]
      dsimp only
      rw [gives]
    have alike := alike_evaluateCell done
    refine ⟨text, _, done, shows, gives, alike, fun other differs => ⟨?_, ?_⟩⟩
    · -- Whatever is not a formula stays the same wherever it is.
      by_contra plain
      exact differs (alike.plain other (by simpa [Sheet.isFormula] using plain)).symm
    -- A cell that the formula does not lead to is spared by the whole computation.
    · by_contra apart
      have start : sheet.Alike (Pass.start sheet).sheet := .refl sheet
      exact differs (Pass.spares_compute start apart).same

end Sheet

end Spreadsheet
