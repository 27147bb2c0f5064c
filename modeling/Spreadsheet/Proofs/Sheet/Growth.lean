import Spreadsheet.Proofs.Formula.Source
import Spreadsheet.Proofs.Sheet.Grid

/-! What a pass knows of the cells: the texts that stay as they are for the rest of the pass, and
what the formulas still to be computed wait for. -/

namespace Spreadsheet

open Formula (Builtin.registry Depth EvalFault Fault Read Reading textCourse)

namespace Formula.Reading

variable {Request α σ : Type}

/-- Goes on with a computation for as long as the answers are known. -/
def advance (known : Request → Option (Except EvalFault String)) :
    Reading Request α → Reading Request α
  | .done result => .done result
  | .ask request next =>
    -- The first request without a known answer is where it stops.
    match known request with
    | some answer => (next answer).advance known
    | none => .ask request next

/-- To go on with more known later is to have known it from the start. -/
theorem advance_advance {known later : Request → Option (Except EvalFault String)}
    (keeps : ∀ request answer, known request = some answer → later request = some answer)
    (reading : Reading Request α) :
    (reading.advance known).advance later = reading.advance later := by
  induction reading with
  | done result => rfl
  | ask request next ih =>
    cases found : known request with
    | none =>
      -- The first part stops here, so the second one starts from here.
      simp only [advance, found]
    | some answer => simp only [advance, found, keeps request answer found, ih answer]

/-- Where all answers are known a computation goes on to its end. -/
theorem advance_eq_done {known : Request → Option (Except EvalFault String)}
    {answers : Request → Except EvalFault String}
    (all : ∀ request, known request = some (answers request)) (reading : Reading Request α)
    (state : σ) :
    reading.advance known =
      .done (reading.run (fun request state => (answers request, state)) state).1 := by
  induction reading with
  | done result => rfl
  | ask request next ih =>
    simp only [advance, all request]
    exact ih (answers request)

end Formula.Reading

namespace Pass

variable {maxReads : Nat} {pass before after : Pass} {address other : Address}

/-- The text of a cell if it stays as it is for the rest of the pass: that of a formula is known
only once it is settled. -/
def known (pass : Pass) (address : Address) : Option (Except EvalFault String) :=
  if pass.sheet.isFormula address && !pass.isSettled address then none
  else some (pass.textAt address)

/-- The answer to a request, if it is known. -/
def answer? (pass : Pass) (read : Read) : Option (Except EvalFault String) :=
  pass.known read.address

/-- A cell that is not known holds a formula. -/
theorem exists_source_of_unknown (unknown : pass.known address = none) :
    ∃ source, pass.sheet.source? address = some source := by
  -- Only formulas are ever unknown.
  unfold known at unknown
  split at unknown
  · rename_i formula
    exact Option.isSome_iff_exists.mp (Bool.and_eq_true_iff.mp formula).1
  · simp at unknown

/-- A cell without a formula is known. -/
theorem known_of_plain (plain : pass.sheet.source? address = none) :
    pass.known address = some (pass.textAt address) := by
  simp [known, Sheet.isFormula, plain]

/-- What is known is the text of the cell. -/
theorem textAt_of_known {text : Except EvalFault String} (found : pass.known address = some text) :
    pass.textAt address = text := by
  unfold known at found
  split at found
  · simp at found
  · exact Option.some.inj found

/-- The text of a cell, if it is in the grid. -/
theorem textAt_eq : pass.textAt address =
    (pass.sheet.cellAt? address).elim (.error .outsideGrid) fun cell => .ok cell.display := by
  unfold textAt Sheet.cellAt?
  cases pass.sheet.cellAt address <;> rfl

/-- Outside the grid there is no text. -/
theorem textAt_of_not_contains (outside : pass.sheet.contains address = false) :
    pass.textAt address = .error .outsideGrid := by
  rw [textAt_eq, Sheet.cellAt?_of_not_contains outside, Option.elim_none]

/-- No text is the circular fault. -/
theorem textAt_ne_circular : pass.textAt address ≠ .error .circular := by
  unfold textAt
  split <;> simp

/-- A request for a text that is known is answered at once. -/
theorem answer_of_known (read : Read) {text : Except EvalFault String}
    (found : pass.known read.address = some text) :
    answer maxReads read pass = (text, pass) := by
  -- Outside the grid the answer is the fault that is known; elsewhere it is the text.
  have same := textAt_of_known found
  unfold answer
  split
  · rename_i outside
    rw [← same, textAt_of_not_contains (by simpa using outside)]
  · split
    · rename_i unsettled
      simp [known, unsettled] at found
    · rw [same]

/-- A request for a text that is not known is answered by computing the cell. -/
theorem answer_of_unknown (read : Read) (unknown : pass.known read.address = none) :
    answer maxReads read pass = pass.compute maxReads read.address read.depth := by
  -- A formula that is not known is in the grid and not settled.
  obtain ⟨source, formula⟩ := exists_source_of_unknown unknown
  have unsettled : (pass.sheet.isFormula read.address && !pass.isSettled read.address) = true := by
    unfold known at unknown
    split at unknown
    · assumption
    · simp at unknown
  unfold answer
  rw [Sheet.contains_of_source? formula, if_neg (by simp), if_pos unsettled]

/-- A pass goes on to another: formulas stay where they are, and what is known stays so. -/
structure Grows (before after : Pass) : Prop where
  sources : ∀ address, after.sheet.source? address = before.sheet.source? address
  known : ∀ address text, before.known address = some text → after.known address = some text

/-- A pass that does nothing grows. -/
theorem Grows.refl (pass : Pass) : Grows pass pass :=
  ⟨fun _ => rfl, fun _ _ found => found⟩

/-- Growing goes on. -/
theorem Grows.trans {middle : Pass} (first : Grows before middle) (second : Grows middle after) :
    Grows before after :=
  ⟨fun address => (second.sources address).trans (first.sources address),
    fun address text found => second.known address text (first.known address text found)⟩

/-- What is not known later is not known before. -/
theorem Grows.unknown (grows : Grows before after) (unknown : after.known address = none) :
    before.known address = none := by
  cases found : before.known address with
  | none => rfl
  | some text => simp [grows.known address text found] at unknown

/-- The computation of a formula from a depth, up to the text that a sheet shows for it. -/
def attempt (maxReads : Nat) (address : Address) (source : String) (depth : Depth) :
    Reading Read (Except Fault String) :=
  (textCourse address Builtin.registry source).bounded (.error (.eval .circular)) maxReads depth

/-- How far a formula can be computed on its own with what is known. -/
def outlook (maxReads : Nat) (pass : Pass) (address : Address) (source : String) :
    Reading Read (Except Fault String) :=
  (attempt maxReads address source ⟨0, 0⟩).advance pass.answer?

/-- A formula can be computed further in a later pass, from where it was. -/
theorem Grows.outlook (grows : Grows before after) (address : Address) (source : String) :
    after.outlook maxReads address source =
      (before.outlook maxReads address source).advance after.answer? := by
  have keeps : ∀ read text, before.answer? read = some text → after.answer? read = some text :=
    fun read => grows.known read.address
  exact (Reading.advance_advance keeps _).symm

/-- A formula that can be computed to its end has the same result later. -/
theorem Grows.outlook_done (grows : Grows before after) {source : String}
    {result : Except Fault String}
    (ended : before.outlook maxReads address source = .done result) :
    after.outlook maxReads address source = .done result := by
  rw [grows.outlook, ended]
  rfl

/-- A formula goes on only when another cell is known. -/
def Waits (maxReads : Nat) (pass : Pass) (address other : Address) : Prop :=
  ∃ source read next, pass.sheet.source? address = some source ∧
    pass.outlook maxReads address source = .ask read next ∧ read.address = other

/-- A formula waits for as long as what it waits for is not known. -/
theorem Waits.grows (waits : Waits maxReads before address other) (grows : Grows before after)
    (unknown : after.known other = none) : Waits maxReads after address other := by
  -- The formula went as far as the cell it asks for, and is stopped there still.
  obtain ⟨source, read, next, formula, stuck, rfl⟩ := waits
  refine ⟨source, read, next, (grows.sources address).trans formula, ?_, rfl⟩
  have unanswered : after.answer? read = none := unknown
  rw [grows.outlook, stuck, Reading.advance, unanswered]

/-- What a sheet shows for the outcome of a computation. -/
def rendered : Except Fault String → String
  | .ok text => text
  | .error fault => fault.marker

/-- Every formula that is settled shows the circular marker, or what comes of computing it on its
own with what is known. -/
def Sound (maxReads : Nat) (pass : Pass) : Prop :=
  ∀ address source text, pass.sheet.source? address = some source →
    pass.known address = some text → text = .ok Formula.circularMarker ∨
      ∃ result, pass.outlook maxReads address source = .done result ∧ text = .ok (rendered result)

/-- Settling a cell changes what it shows, and no other cell. -/
theorem cellAt?_settle (pass : Pass) (address : Address) (display : String) (other : Address) :
    (pass.settle address display).sheet.cellAt? other =
      if other = address then (pass.sheet.cellAt? other).map fun cell => cell.setDisplay display
      else pass.sheet.cellAt? other := by
  unfold settle
  cases changed : pass.sheet.setDisplay address display with
  | ok sheet => exact Sheet.cellAt?_modify changed other
  | error fault =>
    -- Outside the grid there is no cell to change.
    have outside := Sheet.not_contains_of_modify changed
    dsimp only
    split
    · rename_i same
      rw [same, Sheet.cellAt?_of_not_contains outside]
      rfl
    · rfl

/-- Settling a cell leaves all formulas where they are. -/
theorem source?_settle (pass : Pass) (address : Address) (display : String) (other : Address) :
    (pass.settle address display).sheet.source? other = pass.sheet.source? other := by
  -- Settling changes what a cell shows, and never its content.
  simp only [Sheet.source?, cellAt?_settle]
  split
  · cases pass.sheet.cellAt? other <;> rfl
  · rfl

/-- Settling a formula makes its display known, and changes nothing that is known of others. -/
theorem known_settle {source : String} (formula : pass.sheet.source? address = some source)
    (display : String) (other : Address) :
    (pass.settle address display).known other =
      if other = address then some (.ok display) else pass.known other := by
  -- Being known is decided by three things, each of which is told here.
  have isFormula : (pass.settle address display).sheet.isFormula other =
      pass.sheet.isFormula other := by
    simp only [Sheet.isFormula, source?_settle]
  have isSettled : (pass.settle address display).isSettled other =
      (other == address || pass.isSettled other) := by
    simp only [Pass.isSettled, settle, List.contains_cons]
  have text : (pass.settle address display).textAt other =
      if other = address then .ok display else pass.textAt other := by
    rw [textAt_eq, textAt_eq, cellAt?_settle]
    split
    · rename_i same
      have there := Sheet.contains_of_source? formula
      rw [← same, ← Sheet.isSome_cellAt?, Option.isSome_iff_exists] at there
      obtain ⟨cell, found⟩ := there
      rw [found]
      rfl
    · rfl
  unfold known
  rw [isFormula, isSettled, text]
  -- The formula is settled from now on, and for any other cell nothing has changed.
  by_cases same : other = address
  · simp [same]
  · simp [same]

/-- Settling a formula that is not known lets a pass grow. -/
theorem grows_settle (unknown : pass.known address = none) (display : String) :
    Grows pass (pass.settle address display) := by
  -- Nothing was known of the formula itself, and of others nothing changes.
  obtain ⟨source, formula⟩ := exists_source_of_unknown unknown
  refine ⟨source?_settle pass address display, fun other text found => ?_⟩
  rw [known_settle formula, if_neg, found]
  intro same
  simp [same, unknown] at found

/-- A sound pass stays sound when a formula is settled with the circular marker, or with what comes
of computing it on its own with what is known. -/
theorem Sound.settle (sound : Sound maxReads pass) (unknown : pass.known address = none)
    {display : String} (outcome : display = Formula.circularMarker ∨
      ∀ source, pass.sheet.source? address = some source → ∃ result,
        pass.outlook maxReads address source = .done result ∧ display = rendered result) :
    Sound maxReads (pass.settle address display) := by
  obtain ⟨formulaSource, formula⟩ := exists_source_of_unknown unknown
  have grows := grows_settle unknown display
  intro other source text otherFormula found
  rw [source?_settle] at otherFormula
  rw [known_settle formula] at found
  split at found
  -- The formula itself shows what it was settled with.
  · rename_i same
    subst same
    obtain rfl := Option.some.inj found
    refine outcome.imp (congrArg Except.ok) fun computed => ?_
    obtain ⟨result, ended, shows⟩ := computed source otherFormula
    exact ⟨result, grows.outlook_done ended, congrArg Except.ok shows⟩
  · -- The other formulas were settled before, and their results stay.
    refine (sound other source text otherFormula found).imp id fun computed => ?_
    obtain ⟨result, ended, shows⟩ := computed
    exact ⟨result, grows.outlook_done ended, shows⟩

end Pass

end Spreadsheet
