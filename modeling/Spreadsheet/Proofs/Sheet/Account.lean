import Spreadsheet.Proofs.Sheet.Calls

/-! What a recalculation stores: every formula once, as the tally says. -/

namespace Spreadsheet

open Formula (Depth EvalFault Fault Read Reading maxNodes)

namespace Pass

variable {maxReads : Nat} {before middle after pass : Pass}

/-- A pass goes on by storing some outcomes in turn, each for a formula that was not known, and has
counted them. -/
structure Account (before after : Pass) (stores : List (Address × Except Fault String)) : Prop where
  grows : Grows before after
  settled : after.settled = (stores.map Prod.fst).reverse ++ before.settled
  calculated : after.calculated = before.calculated + stores.length
  errors : after.errors = before.errors + stores.countP fun stored => !stored.2.isOk
  distinct : (stores.map Prod.fst).Nodup
  fresh : ∀ stored ∈ stores, before.known stored.1 = none
  shows : ∀ stored ∈ stores, after.known stored.1 = some (.ok (rendered stored.2))

/-- A pass that does nothing stores nothing. -/
theorem Account.refl (pass : Pass) : Account pass pass [] :=
  ⟨.refl pass, rfl, rfl, rfl, List.nodup_nil, (fun _ member => nomatch member),
    fun _ member => nomatch member⟩

/-- What a pass stores in two stretches is what it stores in both. -/
theorem Account.trans {stores more : List (Address × Except Fault String)}
    (first : Account before middle stores) (second : Account middle after more) :
    Account before after (stores ++ more) := by
  -- The counts and the lists add up, and what the first stretch has settled stays.
  refine ⟨first.grows.trans second.grows, ?_, ?_, ?_, ?_, fun stored either => ?_,
    fun stored either => ?_⟩
  · rw [second.settled, first.settled, List.map_append, List.reverse_append, List.append_assoc]
  · rw [second.calculated, first.calculated, List.length_append, Nat.add_assoc]
  · rw [second.errors, first.errors, List.countP_append, Nat.add_assoc]
  · -- What is stored first is known then, and what is stored later is not.
    rw [List.map_append]
    refine first.distinct.append second.distinct fun address old new => ?_
    obtain ⟨stored, member, rfl⟩ := List.mem_map.mp old
    obtain ⟨later, laterMember, same⟩ := List.mem_map.mp new
    have unknown := second.fresh later laterMember
    rw [same, first.shows stored member] at unknown
    simp at unknown
  · rcases List.mem_append.mp either with old | new
    · exact first.fresh stored old
    · exact first.grows.unknown (second.fresh stored new)
  · rcases List.mem_append.mp either with old | new
    · exact second.grows.known _ _ (first.shows stored old)
    · exact second.shows stored new

/-- To keep the result of a formula that is not known is to store it. -/
theorem Account.conclude {address : Address} {reads : Nat} {result : Except Fault String}
    (unknown : pass.known address = none)
    (kept : ¬ (result = .error (.eval .circular) ∧ 0 < reads)) :
    Account pass (pass.conclude address reads result).2 [(address, result)] := by
  obtain ⟨source, formula⟩ := exists_source_of_unknown unknown
  have grows := grows_settle unknown (rendered result)
  -- Settling makes the text known, and the counters do not matter for that.
  rw [conclude_of_kept kept]
  refine ⟨⟨grows.sources, grows.known⟩, rfl, rfl, ?_, List.nodup_singleton _, ?_, ?_⟩
  · cases result <;> rfl
  · intro stored member
    rw [List.mem_singleton.mp member]
    exact unknown
  · intro stored member
    rw [List.mem_singleton.mp member]
    show (pass.settle address (rendered result)).known address = _
    rw [known_settle formula, if_pos rfl]

/-- A pass goes on by storing, in some order, the outcomes of which something holds. -/
def Accounts (before after : Pass) (holds : Address → Except Fault String → Prop) : Prop :=
  ∃ stores, Account before after stores ∧
    ∀ address result, (address, result) ∈ stores ↔ holds address result

/-- What is stored may be said in another way. -/
theorem Accounts.congr {holds same : Address → Except Fault String → Prop}
    (accounts : Accounts before after holds)
    (iff : ∀ address result, holds address result ↔ same address result) :
    Accounts before after same := by
  obtain ⟨stores, account, members⟩ := accounts
  exact ⟨stores, account, fun address result => (members address result).trans (iff _ _)⟩

/-- A pass that does nothing stores nothing. -/
theorem Accounts.refl (pass : Pass) : Accounts pass pass fun _ _ => False :=
  ⟨[], .refl pass, fun _ _ => iff_of_false List.not_mem_nil id⟩

/-- What a pass stores in two stretches is what it stores in one or the other. -/
theorem Accounts.trans {holds more : Address → Except Fault String → Prop}
    (first : Accounts before middle holds) (second : Accounts middle after more) :
    Accounts before after fun address result => holds address result ∨ more address result := by
  obtain ⟨stores, account, members⟩ := first
  obtain ⟨others, later, otherMembers⟩ := second
  refine ⟨stores ++ others, account.trans later, fun address result => ?_⟩
  rw [List.mem_append, members, otherMembers]

/-- To conclude a computation is to store its result, if that is kept. -/
theorem Accounts.conclude {address : Address} (unknown : pass.known address = none) (reads : Nat)
    (result : Except Fault String) :
    Accounts pass (pass.conclude address reads result).2 fun cell stored =>
      address = cell ∧ result = stored ∧ ¬ (stored = .error (.eval .circular) ∧ 0 < reads) := by
  -- Only a circular result within another computation is not stored.
  by_cases dropped : result = .error (.eval .circular) ∧ 0 < reads
  · -- The result is given up, and the pass stays as it is.
    rw [dropped.1, Pass.conclude, if_pos ⟨rfl, dropped.2⟩]
    refine (Accounts.refl pass).congr fun cell stored => iff_of_false id fun kept => ?_
    obtain ⟨_, rfl, kept⟩ := kept
    exact kept ⟨rfl, dropped.2⟩
  · -- The result is kept, and it is all that is stored.
    refine ⟨_, .conclude unknown dropped, fun cell stored => ?_⟩
    rw [List.mem_singleton, Prod.mk.injEq]
    constructor
    · rintro ⟨rfl, rfl⟩
      exact ⟨rfl, rfl, dropped⟩
    · rintro ⟨rfl, rfl, _⟩
      exact ⟨rfl, rfl⟩

namespace Call

variable {busy : Set Address} {call : Call}

/-- A computation stores the result of its evaluation, unless the ceilings have stopped it within
another one. -/
def Stores (maxReads : Nat) (call : Call) (result : Except Fault String) : Prop :=
  ∃ source, call.pass.sheet.source? call.address = some source ∧
    ((call.evaluation maxReads source).run (answer maxReads) call.pass).1 = result ∧
    ¬ (result = .error (.eval .circular) ∧ 0 < call.depth.reads)

/-- A computation or one within it stores a result for a cell. -/
def StoresWithin (maxReads : Nat) (call : Call) (address : Address)
    (result : Except Fault String) : Prop :=
  ∃ inner, Relation.ReflTransGen (Starts maxReads) call inner ∧ inner.address = address ∧
    inner.Stores maxReads result

/-- What is stored within a computation is stored within one that it starts, or by itself. -/
theorem storesWithin_iff {address : Address} {result : Except Fault String} :
    call.StoresWithin maxReads address result ↔
      (∃ inner, call.Starts maxReads inner ∧ inner.StoresWithin maxReads address result) ∨
        (call.address = address ∧ call.Stores maxReads result) := by
  -- A chain of computations is this one alone, or goes on through one that it starts.
  constructor
  · intro stored
    obtain ⟨last, within, same, stores⟩ := stored
    rcases Relation.ReflTransGen.cases_head_iff.mp within with rfl | ⟨inner, starts, rest⟩
    · exact .inr ⟨same, stores⟩
    · exact .inl ⟨inner, starts, last, rest, same, stores⟩
  · intro either
    rcases either with ⟨inner, starts, last, rest, same, stores⟩ | ⟨same, stores⟩
    · exact ⟨last, .head starts rest, same, stores⟩
    · exact ⟨call, .refl, same, stores⟩

/-- A run stores what the computations store that it starts. -/
theorem accounts_run {α : Type} {reading : Reading Read α}
    (answers : ∀ inner : Call,
      reading.Meets (answer maxReads) pass ⟨inner.address, inner.depth⟩ inner.pass →
      inner.pass.known inner.address = none →
      Accounts inner.pass (inner.ending maxReads).2 (inner.StoresWithin maxReads)) :
    Accounts pass (reading.run (answer maxReads) pass).2 fun address result =>
      ∃ inner : Call,
        reading.Meets (answer maxReads) pass ⟨inner.address, inner.depth⟩ inner.pass ∧
        inner.pass.known inner.address = none ∧ inner.StoresWithin maxReads address result := by
  -- The induction follows the run from one request to the next.
  induction reading generalizing pass with
  | done result =>
    refine (Accounts.refl pass).congr fun _ _ => iff_of_false id fun stored => ?_
    obtain ⟨_, meets, _⟩ := stored
    exact Reading.not_meets_done meets
  | ask read next ih =>
    have later := ih (answer maxReads read pass).1 fun inner meets =>
      answers inner (.later meets)
    rw [Reading.run]
    cases found : pass.known read.address with
    | some text =>
      -- A text that is known is told at once, and nothing is stored for it.
      rw [answer_of_known read found] at later ⊢
      refine later.congr fun address result => exists_congr fun inner => ?_
      rw [Reading.meets_ask_iff, answer_of_known read found]
      constructor
      · intro stored
        obtain ⟨meets, rest⟩ := stored
        exact ⟨.inr meets, rest⟩
      · intro stored
        obtain ⟨⟨same, stays⟩ | meets, unknown, rest⟩ := stored
        · obtain rfl := eq_of_read same stays
          simp [found] at unknown
        · exact ⟨meets, unknown, rest⟩
    | none =>
      -- The formula is computed first, and the run goes on from there.
      have first := answers ⟨read.address, read.depth, pass⟩ (.here _ _ _) found
      rw [answer_of_unknown read found] at later ⊢
      refine (first.trans later).congr fun address result => ?_
      constructor
      · intro either
        rcases either with stored | ⟨inner, meets, rest⟩
        · exact ⟨⟨read.address, read.depth, pass⟩, .here _ _ _, found, stored⟩
        · refine ⟨inner, .later ?_, rest⟩
          rw [answer_of_unknown read found]
          exact meets
      · intro stored
        obtain ⟨inner, meets, unknown, rest⟩ := stored
        rw [Reading.meets_ask_iff, answer_of_unknown read found] at meets
        rcases meets with ⟨same, stays⟩ | meets
        · obtain rfl := eq_of_read same stays
          exact .inl rest
        · exact .inr ⟨inner, meets, unknown, rest⟩

/-- A computation that fits stores what it and the computations within it come to. -/
theorem Fits.accounts (fits : call.Fits maxReads busy) :
    Accounts call.pass (call.ending maxReads).2 (call.StoresWithin maxReads) := by
  -- Every computation starts deeper, so the ceiling on expressions bounds the recursion.
  induction left : maxNodes - call.depth.nodes using Nat.strong_induction_on
    generalizing call busy with
  | _ remaining ih =>
    obtain ⟨source, formula⟩ := exists_source_of_unknown fits.unknown
    have evaluation := evaluation_eq maxReads call source
    -- What the computations store that are started here.
    have inner := accounts_run fun inner meets unknown => by
      have deeper := attempt_deeper maxReads call.address source call.depth
      rw [← evaluation] at deeper
      have below : Deeper call.depth ⟨inner.address, inner.depth⟩ := deeper.of_meets meets
      obtain ⟨isFormula, unsettled⟩ := known_eq_none_iff.mp unknown
      have starts : call.Starts maxReads inner := ⟨source, formula, meets, isFormula, unsettled⟩
      have less : maxNodes - inner.depth.nodes < remaining := by
        have deeper : call.depth.nodes < inner.depth.nodes := below.1
        have bounded : inner.depth.nodes ≤ maxNodes := below.2
        omega
      exact ih _ less (fits.starts starts).1 rfl
    -- The formula is still not known after these.
    have unknown := (fits.ran formula).unknown call.address (Set.mem_insert _ _)
    rw [ending_eq formula]
    -- It is then stored, unless it is given up.
    refine (inner.trans (.conclude unknown _ _)).congr fun address result => ?_
    rw [storesWithin_iff]
    unfold Starts Stores
    simp only [formula, Option.some.injEq, exists_eq_left', known_eq_none_iff, and_assoc]

end Call

end Pass

end Spreadsheet
