import Spreadsheet.Formula.Fault

/-! Computations that ask for cell texts, kept apart from whoever answers. -/

namespace Spreadsheet.Formula

/-- A computation that is done, or asks for a text and goes on with it or the reason for none. -/
inductive Reading (Request : Type) (α : Type) where
  | done (result : α)
  | ask (request : Request) (next : Except EvalFault String → Reading Request α)

namespace Reading

variable {Request σ α β : Type}

/-- One computation and then another. -/
def bind : Reading Request α → (α → Reading Request β) → Reading Request β
  | .done result, after => after result
  | .ask request next, after => .ask request fun answer => (next answer).bind after

instance : Monad (Reading Request) where
  pure := .done
  bind := bind

/-- A computation after another may be given the later ones at once. -/
theorem bind_assoc {γ : Type} (reading : Reading Request α) (second : α → Reading Request β)
    (third : β → Reading Request γ) :
    (reading.bind second).bind third = reading.bind fun result => (second result).bind third := by
  induction reading with
  | done result => rfl
  | ask request next ih => simp only [bind, ih]

/-- Giving back the result changes nothing. -/
theorem bind_done (reading : Reading Request α) : reading.bind .done = reading := by
  induction reading with
  | done result => rfl
  | ask request next ih => simp only [bind, ih]

/-- Computations may be put together in any grouping. -/
instance : LawfulMonad (Reading Request) :=
  LawfulMonad.mk' (Reading Request) bind_done (fun _ _ => rfl) bind_assoc

/-- Runs a computation, threading a state through the answers. -/
def run (answer : Request → σ → Except EvalFault String × σ) :
    Reading Request α → σ → α × σ
  | .done result, state => (result, state)
  | .ask request next, state =>
    let (text, state) := answer request state
    (next text).run answer state

/-- Running one computation and then another threads the state through both. -/
theorem run_bind (answer : Request → σ → Except EvalFault String × σ)
    (reading : Reading Request α) (after : α → Reading Request β) (state : σ) :
    (reading.bind after).run answer state =
      (after (reading.run answer state).1).run answer (reading.run answer state).2 := by
  induction reading generalizing state with
  | done result => rfl
  | ask request next ih => exact ih _ _

/-- Every request made satisfies `P` and every result satisfies `Q`, whatever the answers. -/
def Holds (P : Request → Prop) (Q : α → Prop) : Reading Request α → Prop
  | .done result => Q result
  | .ask request next => P request ∧ ∀ answer, (next answer).Holds P Q

/-- Runs a computation whose requests all satisfy `P`, telling the answerer so. -/
def runWithin (P : Request → Prop)
    (answer : (request : Request) → P request → σ → Except EvalFault String × σ) :
    (reading : Reading Request α) → reading.Holds P (fun _ => True) → σ → α × σ
  | .done result, _, state => (result, state)
  | .ask request next, within, state =>
    let (text, state) := answer request within.1 state
    (next text).runWithin P answer (within.2 text) state

/-- Requests that satisfy `P` and results that satisfy `Q` may be required to satisfy less. -/
theorem Holds.mono {P P' : Request → Prop} {Q Q' : α → Prop} {reading : Reading Request α}
    (holds : reading.Holds P Q) (requests : ∀ request, P request → P' request)
    (results : ∀ result, Q result → Q' result) : reading.Holds P' Q' := by
  induction reading with
  | done result => exact results result holds
  | ask request next ih =>
    exact ⟨requests request holds.1, fun answer => ih answer (holds.2 answer)⟩

/-- What holds of a computation, and of the one after each of its results, holds of both in turn. -/
theorem Holds.bind {P : Request → Prop} {Q : α → Prop} {Q' : β → Prop}
    {reading : Reading Request α} {after : α → Reading Request β}
    (first : reading.Holds P Q) (second : ∀ result, Q result → (after result).Holds P Q') :
    (reading.bind after).Holds P Q' := by
  induction reading with
  | done result => exact second result first
  | ask request next ih => exact ⟨first.1, fun answer => ih answer (first.2 answer)⟩

/-- An answerer that makes no use of being told answers as one that is not. -/
theorem runWithin_eq_run {P : Request → Prop}
    {answer : Request → σ → Except EvalFault String × σ} {reading : Reading Request α}
    (within : reading.Holds P (fun _ => True)) (state : σ) :
    reading.runWithin P (fun request _ => answer request) within state =
      reading.run answer state := by
  induction reading generalizing state with
  | done result => rfl
  | ask request next ih => exact ih _ (within.2 _) _

end Reading

end Spreadsheet.Formula
