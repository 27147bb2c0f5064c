import Spreadsheet.Formula.Reading

/-! The requests that a run of a computation makes, and runs that are answered alike. -/

namespace Spreadsheet.Formula.Reading

variable {Request σ τ α β : Type} {P : Request → Prop} {Q : α → Prop}
  {reading : Reading Request α} {answer : Request → σ → Except EvalFault String × σ}
  {other : Request → τ → Except EvalFault String × τ}

/-- The requests that a run makes, from first to last. -/
def requests (answer : Request → σ → Except EvalFault String × σ) :
    Reading Request α → σ → List Request
  | .done _, _ => []
  | .ask request next, state =>
    let (text, state) := answer request state
    request :: (next text).requests answer state

/-- A run that makes a request goes on with the answer, in the state that answering leaves. -/
theorem run_ask (request : Request) (next : Except EvalFault String → Reading Request α)
    (state : σ) : (ask request next).run answer state =
      (next (answer request state).1).run answer (answer request state).2 :=
  rfl

/-- The first request of a run comes before those that are made after its answer. -/
theorem requests_ask (request : Request) (next : Except EvalFault String → Reading Request α)
    (state : σ) : (ask request next).requests answer state =
      request :: (next (answer request state).1).requests answer (answer request state).2 :=
  rfl

/-- What holds of all requests of a computation holds of those that a run makes. -/
theorem Holds.of_mem_requests (holds : reading.Holds P Q) {state : σ} {request : Request}
    (member : request ∈ reading.requests answer state) : P request := by
  -- The run takes one way through the computation.
  induction reading generalizing state with
  | done result => exact nomatch member
  | ask first next ih =>
    rw [requests_ask] at member
    rcases List.mem_cons.mp member with rfl | later
    · exact holds.1
    · exact ih _ (holds.2 _) later

/-- What holds of all results of a computation holds of the one that a run comes to. -/
theorem Holds.of_run (holds : reading.Holds P Q)
    (answer : Request → σ → Except EvalFault String × σ) (state : σ) :
    Q (reading.run answer state).1 := by
  induction reading generalizing state with
  | done result => exact holds
  | ask request next ih => exact ih _ (holds.2 _) _

/-- What answering keeps, for the requests that a computation may make, is kept by running it. -/
theorem Holds.run_keeps (kept : σ → Prop) (holds : reading.Holds P Q)
    (keeps : ∀ request state, P request → kept state → kept (answer request state).2) {state : σ}
    (start : kept state) : kept (reading.run answer state).2 := by
  induction reading generalizing state with
  | done result => exact start
  | ask request next ih => exact ih _ (holds.2 _) (keeps request state holds.1 start)

/-- Two answerers agree on some requests: asked the same in states that are alike, they tell the
same and are left in states that are alike. -/
def Agree (P : Request → Prop) (alike : σ → τ → Prop)
    (answer : Request → σ → Except EvalFault String × σ)
    (other : Request → τ → Except EvalFault String × τ) : Prop :=
  ∀ request state state', P request → alike state state' →
    (answer request state).1 = (other request state').1 ∧
      alike (answer request state).2 (other request state').2

/-- Answerers that agree on all requests of a computation lead it to the same result, by the same
requests. -/
theorem Holds.run_of_agree {alike : σ → τ → Prop} (holds : reading.Holds P Q)
    (agree : Agree P alike answer other) {state : σ} {state' : τ} (start : alike state state') :
    (reading.run answer state).1 = (reading.run other state').1 ∧
      reading.requests answer state = reading.requests other state' ∧
      alike (reading.run answer state).2 (reading.run other state').2 := by
  -- The induction follows the two runs, which stay in lockstep from one request to the next.
  induction reading generalizing state state' with
  | done result => exact ⟨rfl, rfl, start⟩
  | ask request next ih =>
    obtain ⟨told, left⟩ := agree request state state' holds.1 start
    rw [run_ask, run_ask, requests_ask, requests_ask, told]
    obtain ⟨results, requests, ends⟩ := ih (other request state').1 (holds.2 _) left
    exact ⟨results, congrArg (request :: ·) requests, ends⟩

end Spreadsheet.Formula.Reading
