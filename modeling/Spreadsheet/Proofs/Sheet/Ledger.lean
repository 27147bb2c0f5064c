import Spreadsheet.Proofs.Sheet.Account

/-! The account of a whole recalculation: what it stores, in which order, and what it counts. -/

namespace Spreadsheet

open Formula (Fault)

namespace Pass

variable {maxReads : Nat} {pass : Pass}

/-- Marking cells counts an error for each and settles them in their order. -/
theorem settleCirculars_counts (cells : List Address) (pass : Pass) :
    (cells.foldl settleCircular pass).settled = cells.reverse ++ pass.settled ∧
      (cells.foldl settleCircular pass).calculated = pass.calculated ∧
      (cells.foldl settleCircular pass).errors = pass.errors + cells.length := by
  -- Every mark puts one address in front of those settled and counts one error.
  induction cells generalizing pass with
  | nil => exact ⟨rfl, rfl, rfl⟩
  | cons first rest ih =>
    obtain ⟨settled, calculated, errors⟩ := ih (pass.settleCircular first)
    refine ⟨?_, calculated, ?_⟩
    · rw [List.foldl_cons, settled, List.reverse_cons, List.append_assoc]
      rfl
    · rw [List.foldl_cons, errors, List.length_cons]
      show pass.errors + 1 + rest.length = pass.errors + (rest.length + 1)
      omega

/-- A formula that is marked shows the circular marker from then on. -/
theorem known_settleCirculars {cells : List Address} {address : Address}
    (formulas : ∀ cell ∈ cells, (pass.sheet.source? cell).isSome = true)
    (member : address ∈ cells) :
    (cells.foldl settleCircular pass).known address = some (.ok Formula.circularMarker) := by
  -- The last of the marks of a cell decides, and all of them are the same.
  have either : (address ∈ cells ∨ pass.known address = some (.ok Formula.circularMarker)) →
      (cells.foldl settleCircular pass).known address = some (.ok Formula.circularMarker) := by
    clear member
    -- The cell is marked among these cells, or has been marked before them.
    induction cells generalizing pass with
    | nil => exact fun either => either.resolve_left List.not_mem_nil
    | cons first rest ih =>
      intro either
      obtain ⟨firstFormula, others⟩ := List.forall_mem_cons.mp formulas
      obtain ⟨source, formula⟩ := Option.isSome_iff_exists.mp firstFormula
      have marked : (pass.settleCircular first).known address =
          if address = first then some (.ok Formula.circularMarker) else pass.known address :=
        known_settle formula Formula.circularMarker address
      have stays : ∀ cell, (pass.settleCircular first).sheet.source? cell =
          pass.sheet.source? cell := source?_settle pass first Formula.circularMarker
      refine ih (fun cell member => (stays cell).symm ▸ others cell member) ?_
      rw [marked]
      by_cases same : address = first
      · exact .inr (if_pos same)
      · rw [if_neg same]
        exact either.imp_left fun member => (List.mem_cons.mp member).resolve_left same
  exact either (.inl member)

/-- Visiting a formula stores what the computation of it stores, if it is not settled. -/
theorem accounts_visit {address : Address} (sound : Sound maxReads pass)
    (formula : pass.sheet.isFormula address = true) :
    Accounts pass (pass.visit maxReads address) fun cell result =>
      pass.isSettled address = false ∧
        Call.StoresWithin maxReads ⟨address, ⟨0, 0⟩, pass⟩ cell result := by
  unfold visit
  -- A cell that is settled already is passed over.
  split
  · rename_i settled
    refine (Accounts.refl pass).congr fun cell result => iff_of_false id fun stored => ?_
    simp [settled] at stored
  · rename_i unsettled
    have unsettled : pass.isSettled address = false := Bool.eq_false_iff.mpr unsettled
    have fits := Call.Fits.alone sound (known_eq_none_iff.mpr ⟨formula, unsettled⟩)
    exact fits.accounts.congr fun cell result => (and_iff_right unsettled).symm

/-- Visiting some formulas in turn stores what the computations store that are made for those not
settled by then. -/
theorem accounts_visits {order : List Address} (sound : Sound maxReads pass)
    (formulas : ∀ address ∈ order, pass.sheet.isFormula address = true) :
    Accounts pass (order.foldl (visit maxReads) pass) fun address result =>
      ∃ before cell after, order = before ++ cell :: after ∧
        (before.foldl (visit maxReads) pass).isSettled cell = false ∧
        Call.StoresWithin maxReads ⟨cell, ⟨0, 0⟩, before.foldl (visit maxReads) pass⟩
          address result := by
  -- The account of the first visit is put before that of the others.
  induction order generalizing pass with
  | nil =>
    refine (Accounts.refl pass).congr fun address result => iff_of_false id fun stored => ?_
    obtain ⟨before, cell, after, split, _⟩ := stored
    simp at split
  | cons first rest ih =>
    obtain ⟨formula, others⟩ := List.forall_mem_cons.mp formulas
    have reached := visit_reached sound first
    have later := ih reached.sound fun address member => by
      rw [Sheet.isFormula, reached.grows.sources]
      exact others address member
    refine ((accounts_visit sound formula).trans later).congr fun address result => ?_
    -- A cell of the order is the first one, or it comes later.
    constructor
    · intro either
      rcases either with ⟨unsettled, stored⟩ | ⟨before, cell, after, split, rest⟩
      · exact ⟨[], first, _, rfl, unsettled, stored⟩
      · exact ⟨first :: before, cell, after, congrArg (first :: ·) split, rest⟩
    · intro stored
      obtain ⟨before, cell, after, split, rest⟩ := stored
      rcases List.cons_eq_append_iff.mp split with ⟨rfl, same⟩ | ⟨behind, rfl, same⟩
      · obtain ⟨rfl, _⟩ := List.cons.inj same
        exact .inl rest
      · exact .inr ⟨behind, cell, after, same, rest⟩

end Pass

namespace Sheet

variable {sheet : Sheet} {maxReads : Nat}

/-- Once the cells on cycles are marked, a recalculation stores what its computations store. -/
theorem accounts_recalculation (sheet : Sheet) (maxReads : Nat) :
    Pass.Accounts sheet.marking (sheet.recalculation maxReads) fun address result =>
      ∃ call, sheet.Makes maxReads call ∧ call.address = address ∧ call.Stores maxReads result := by
  have reached := sheet.marking_reached maxReads
  have formulas : ∀ address ∈ sheet.graph.schedule.order,
      sheet.marking.sheet.isFormula address = true := by
    intro address member
    rw [isFormula, reached.grows.sources]
    exact mem_schedule.mp (List.mem_append_left _ member)
  refine (Pass.accounts_visits reached.sound formulas).congr fun address result => ?_
  -- A place in the order and a computation within the one made there are what is asked for.
  constructor
  · intro stored
    obtain ⟨before, cell, after, order, unsettled, call, within, rest⟩ := stored
    exact ⟨call, ⟨_, ⟨before, after, order, rfl, rfl, unsettled⟩, within⟩, rest⟩
  · intro stored
    obtain ⟨call, ⟨visit, ⟨before, after, order, depth, pass, unsettled⟩, within⟩, rest⟩ := stored
    obtain ⟨cell, _, _⟩ := visit
    obtain rfl : _ = _ := depth
    obtain rfl : _ = _ := pass
    exact ⟨before, cell, after, order, unsettled, call, within, rest⟩

/-- The graph of a sheet has a node for each formula. -/
theorem size_graph (sheet : Sheet) : sheet.graph.size = sheet.formulas.length := by
  -- Nodes and formulas are at the same addresses, without repetition on either side.
  have same : sheet.graph.nodes.Perm (sheet.formulas.map Prod.fst) := by
    refine (List.perm_ext_iff_of_nodup graph_tidy.distinct sheet.nodup_formulas).mpr fun cell => ?_
    simp only [mem_nodes_graph, List.mem_map, Prod.exists, exists_and_right, exists_eq_right,
      mem_formulas, Option.isSome_iff_exists]
  have length := same.length_eq
  rwa [Graph.nodes, List.length_map, List.length_map] at length

/-- Marking the cells on cycles settles them, counts an error for each, and computes nothing. -/
theorem marking_counts (sheet : Sheet) :
    sheet.marking.settled = sheet.graph.schedule.cyclic.reverse ∧
      sheet.marking.calculated = 0 ∧
      sheet.marking.errors = sheet.graph.schedule.cyclic.length := by
  obtain ⟨settled, calculated, errors⟩ :=
    Pass.settleCirculars_counts sheet.graph.schedule.cyclic (Pass.start sheet)
  exact ⟨settled.trans (List.append_nil _), calculated, errors.trans (Nat.zero_add _)⟩

/-- The cells on cycles show the circular marker once they are marked. -/
theorem known_marking {address : Address} (member : address ∈ sheet.graph.schedule.cyclic) :
    sheet.marking.known address = some (.ok Formula.circularMarker) :=
  Pass.known_settleCirculars (fun _ member => mem_schedule.mp (List.mem_append_right _ member))
    member

section Account

variable {stores : List (Address × Except Fault String)}

/-- Cells are settled in the order in which they are marked and stored. -/
theorem settled_recalculation
    (account : Pass.Account sheet.marking (sheet.recalculation maxReads) stores) :
    (sheet.recalculation maxReads).settled.reverse =
      sheet.graph.schedule.cyclic ++ stores.map Prod.fst := by
  -- The last cell settled stands first, so both lists come reversed.
  rw [account.settled, sheet.marking_counts.1, List.reverse_append, List.reverse_reverse,
    List.reverse_reverse]

/-- No cell is settled twice: what is stored was not known when the cells on cycles were. -/
theorem nodup_stored
    (account : Pass.Account sheet.marking (sheet.recalculation maxReads) stores) :
    (sheet.graph.schedule.cyclic ++ stores.map Prod.fst).Nodup := by
  refine (List.nodup_append.mp nodup_schedule).2.1.append account.distinct ?_
  intro address circular again
  obtain ⟨store, member, rfl⟩ := List.mem_map.mp again
  have unknown := account.fresh store member
  rw [known_marking circular] at unknown
  simp at unknown

/-- The cells that are marked or stored are those that hold formulas. -/
theorem mem_stored (account : Pass.Account sheet.marking (sheet.recalculation maxReads) stores)
    {address : Address} : address ∈ sheet.graph.schedule.cyclic ++ stores.map Prod.fst ↔
      (sheet.source? address).isSome = true := by
  constructor
  · intro either
    -- A cell on a cycle is scheduled, and one that is stored was not known before.
    rcases List.mem_append.mp either with circular | later
    · exact mem_schedule.mp (List.mem_append_right _ circular)
    · obtain ⟨store, member, rfl⟩ := List.mem_map.mp later
      exact (Pass.known_start sheet store.1).mp
        ((sheet.marking_reached maxReads).grows.unknown (account.fresh store member))
  · intro formula
    -- A formula is known in the end, and it can only be so because it is settled.
    rw [← settled_recalculation account, List.mem_reverse]
    by_contra unsettled
    have grows := (sheet.marking_reached maxReads).grows.trans account.grows
    have isFormula : (sheet.recalculation maxReads).sheet.isFormula address = true := by
      rw [isFormula, grows.sources]
      exact formula
    have unknown := Pass.known_eq_none_iff.mpr
      ⟨isFormula, by simpa [Pass.isSettled] using unsettled⟩
    simp [known_recalculation] at unknown

/-- Every formula is marked or stored, once. -/
theorem perm_stored (account : Pass.Account sheet.marking (sheet.recalculation maxReads) stores) :
    (sheet.graph.schedule.cyclic ++ stores.map Prod.fst).Perm (sheet.formulas.map Prod.fst) := by
  refine (List.perm_ext_iff_of_nodup (nodup_stored account) sheet.nodup_formulas).mpr fun cell => ?_
  simp only [mem_stored account, List.mem_map, Prod.exists, exists_and_right, exists_eq_right,
    mem_formulas, Option.isSome_iff_exists]

end Account

/-- What a recalculation stores and counts: the cells on cycles are marked first, and then an
outcome is stored for every other formula. -/
structure Ledger (sheet : Sheet) (maxReads : Nat) (stores : List (Address × Except Fault String)) :
    Prop where
  ends : (sheet.calculate maxReads).1 = (sheet.recalculation maxReads).sheet
  settled : (sheet.recalculation maxReads).settled.reverse =
    sheet.graph.schedule.cyclic ++ stores.map Prod.fst
  once : (sheet.recalculation maxReads).settled.reverse.Perm (sheet.formulas.map Prod.fst)
  stored : ∀ address result, (address, result) ∈ stores ↔
    ∃ call, sheet.Makes maxReads call ∧ call.address = address ∧ call.Stores maxReads result
  reentered : ∀ outer inner, sheet.Makes maxReads outer →
    Relation.TransGen (Pass.Call.Starts maxReads) outer inner → inner.address = outer.address →
    inner.ending maxReads = (.error .circular, inner.pass)
  marked : ∀ address ∈ sheet.graph.schedule.cyclic,
    (sheet.calculate maxReads).1.shownAt address = .ok Formula.circularMarker
  shown : ∀ stored ∈ stores,
    (sheet.calculate maxReads).1.shownAt stored.1 = .ok (Pass.rendered stored.2)
  formulas : (sheet.calculate maxReads).2.formulas = sheet.formulas.length
  circular : (sheet.calculate maxReads).2.circular = sheet.graph.schedule.cyclic.length
  calculated : (sheet.calculate maxReads).2.calculated + (sheet.calculate maxReads).2.circular =
    (sheet.calculate maxReads).2.formulas
  errors : (sheet.calculate maxReads).2.errors =
    (sheet.calculate maxReads).2.circular + stores.countP fun stored => !stored.2.isOk

/-- A recalculation stores every formula exactly once, gives up the computations of a cell within
another one of that cell, and counts what it stores. -/
theorem exists_ledger (sheet : Sheet) (maxReads : Nat) :
    ∃ stores, sheet.Ledger maxReads stores := by
  obtain ⟨stores, account, stored⟩ := sheet.accounts_recalculation maxReads
  obtain ⟨_, calculated, errors⟩ := sheet.marking_counts
  have final := sheet.calculate_eq maxReads
  have order := settled_recalculation account
  have once := perm_stored account
  refine ⟨stores, ?_⟩
  -- What is known once is known in the end, so what is marked or stored is what is shown.
  constructor
  case ends => rw [final]
  case settled => exact order
  case once => exact order ▸ once
  case stored => exact stored
  case reentered =>
    -- Whatever a computation is made within, it fits there.
    intro outer inner makes within again
    obtain ⟨busy, fits⟩ := makes.fits
    exact fits.ending_of_within within again
  case marked =>
    intro address member
    rw [final]
    exact Pass.textAt_of_known (account.grows.known _ _ (known_marking member))
  case shown =>
    intro store member
    rw [final]
    exact Pass.textAt_of_known (account.shows store member)
  case formulas =>
    rw [final]
    exact sheet.size_graph
  case circular => rw [final]
  case calculated =>
    -- Every formula is marked or stored, and each store counts as one computed.
    have length := once.length_eq
    rw [List.length_append, List.length_map, List.length_map] at length
    rw [final]
    dsimp only
    rw [account.calculated, calculated, size_graph]
    omega
  case errors =>
    -- The marks have been counted before, and of the stores those of faults are.
    rw [final]
    dsimp only
    rw [account.errors, errors]

end Sheet

end Spreadsheet
