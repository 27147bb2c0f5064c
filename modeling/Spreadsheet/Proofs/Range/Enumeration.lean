import Spreadsheet.Proofs.Graph.RowOrder
import Spreadsheet.Proofs.Range

/-! The walk through a rectangle comes to each of its cells once, in row order, and its numbers stay
in bounds on the way. -/

namespace Spreadsheet

namespace Address

/-- Addresses are the same if their coordinates are, as natural numbers. -/
theorem eq_of_toNat {left right : Address} (rows : left.row.toNat = right.row.toNat)
    (cols : left.col.toNat = right.col.toNat) : left = right := by
  cases left
  cases right
  rw [mk.injEq]
  exact ⟨UInt32.toNat_inj.mp rows, UInt32.toNat_inj.mp cols⟩

/-- Row order, read off the coordinates as natural numbers. -/
theorem before_iff {left right : Address} : left.Before right ↔
    left.row.toNat < right.row.toNat ∨
      left.row.toNat = right.row.toNat ∧ left.col.toNat < right.col.toNat := by
  simp only [Before, UInt32.lt_iff_toNat_lt, UInt32.toNat_inj]

/-- Of two addresses that are not the same, one stands before the other. -/
theorem before_or_before {left right : Address} (other : left ≠ right) :
    left.Before right ∨ right.Before left := by
  -- Neither the rows nor the columns decide only if both are equal.
  have different : ¬ (left.row.toNat = right.row.toNat ∧ left.col.toNat = right.col.toNat) :=
    fun same => other (eq_of_toNat same.1 same.2)
  rw [before_iff, before_iff]
  omega

end Address

namespace Range

variable {range : Range} {address one other : Address} {remaining : Nat}

section Corners

/-- The lesser of two numbers, as a natural number. -/
theorem toNat_min (left right : UInt32) :
    (min left right).toNat = min left.toNat right.toNat := by
  simp only [Min.min, UInt32.le_iff_toNat_le]
  split <;> rfl

/-- The greater of two numbers, as a natural number. -/
theorem toNat_max (left right : UInt32) :
    (max left right).toNat = max left.toNat right.toNat := by
  simp only [Max.max, UInt32.le_iff_toNat_le]
  split <;> rfl

/-- Rectangles are the same if their corners are. -/
theorem eq_of_corners {same : Range} (first : range.first = same.first)
    (last : range.last = same.last) : range = same := by
  cases range
  cases same
  cases first
  cases last
  rfl

/-- A rectangle does not depend on which of two opposite corners is told first. -/
theorem ofCorners_comm (one other : Address) : ofCorners other one = ofCorners one other := by
  -- The lesser and the greater of two numbers are the same in either order.
  apply eq_of_corners <;> apply Address.eq_of_toNat <;>
    simp only [ofCorners, toNat_min, toNat_max, Nat.min_comm, Nat.max_comm]

/-- A rectangle does not depend on which of its diagonals is told. -/
theorem ofCorners_diagonal (one other : Address) :
    ofCorners ⟨one.row, other.col⟩ ⟨other.row, one.col⟩ = ofCorners one other := by
  apply eq_of_corners <;> apply Address.eq_of_toNat <;>
    simp only [ofCorners, toNat_min, toNat_max, Nat.min_comm, Nat.max_comm]

/-- The first corner is a cell of its rectangle. -/
theorem contains_first (range : Range) : range.contains range.first = true :=
  contains_iff.mpr ⟨⟨Nat.le_refl _, UInt32.le_iff_toNat_le.mp range.rows_ordered⟩,
    Nat.le_refl _, UInt32.le_iff_toNat_le.mp range.cols_ordered⟩

end Corners

section Order

variable (inside : range.contains one = true) (otherInside : range.contains other = true)

include inside otherInside

/-- Of two cells of a rectangle, the one that stands before the other has more cells ahead. -/
theorem ahead_lt_of_before (before : one.Before other) :
    range.ahead other < range.ahead one := by
  obtain ⟨⟨_, below⟩, left, right⟩ := contains_iff.mp inside
  obtain ⟨⟨_, otherBelow⟩, otherLeft, otherRight⟩ := contains_iff.mp otherInside
  have width : range.width = range.last.col.toNat - range.first.col.toNat + 1 := rfl
  unfold ahead
  -- What is ahead is rows below times the width, and the rest of the row.
  rcases Address.before_iff.mp before with upper | ⟨same, further⟩
  · -- There is a whole row more below the upper one.
    obtain ⟨rows, split⟩ := Nat.exists_eq_add_of_lt upper
    have more : range.last.row.toNat - one.row.toNat =
        (range.last.row.toNat - other.row.toNat) + (rows + 1) := by omega
    have row : range.width ≤ (rows + 1) * range.width :=
      Nat.le_mul_of_pos_left _ (Nat.succ_pos rows)
    rw [more, Nat.add_mul]
    omega
  · -- In the same row there are more cells on the right of the one further left.
    rw [same]
    omega

/-- Of two cells of a rectangle, one stands before the other exactly if it has more cells ahead. -/
theorem before_iff_ahead_lt : one.Before other ↔ range.ahead other < range.ahead one := by
  refine ⟨ahead_lt_of_before inside otherInside, fun less => ?_⟩
  have different : one ≠ other := by
    rintro rfl
    exact Nat.lt_irrefl _ less
  -- The other way round there would be fewer cells ahead.
  refine (Address.before_or_before different).resolve_right fun after => ?_
  have more := ahead_lt_of_before otherInside inside after
  omega

/-- Different cells of a rectangle have different numbers of cells ahead. -/
theorem eq_of_ahead_eq (same : range.ahead one = range.ahead other) : one = other := by
  by_contra different
  rcases Address.before_or_before different with before | before
  · have less := ahead_lt_of_before inside otherInside before
    omega
  · have less := ahead_lt_of_before otherInside inside before
    omega

end Order

/-- No cell of a rectangle has more cells ahead than its first corner. -/
theorem ahead_le_first (inside : range.contains address = true) :
    range.ahead address ≤ range.ahead range.first := by
  by_contra more
  -- A cell with more cells ahead would stand before the first corner.
  have before := (before_iff_ahead_lt inside range.contains_first).mpr (by omega)
  obtain ⟨⟨above, _⟩, left, _⟩ := contains_iff.mp inside
  rcases Address.before_iff.mp before with upper | ⟨_, further⟩ <;> omega

section Walking

/-- A step of a walk that is not over gives the cell that it stands at. -/
theorem take_succ (range : Range) (address : Address) (remaining steps : Nat) :
    (⟨range, address, remaining + 1⟩ : Walk).take (steps + 1) =
      (address :: ((⟨range, range.after address, remaining⟩ : Walk).take steps).1,
        ((⟨range, range.after address, remaining⟩ : Walk).take steps).2) :=
  rfl

/-- What a walk has come to and what is still to come make up what was to come at first. -/
theorem remaining_add_length_take (walk : Walk) (steps : Nat) :
    (walk.take steps).2.remaining + (walk.take steps).1.length = walk.remaining := by
  -- Every step counts one down and comes to one cell, until there is none to come.
  induction steps generalizing walk with
  | zero => rfl
  | succ steps ih =>
    obtain ⟨range, address, remaining⟩ := walk
    cases remaining with
    | zero => rfl
    | succ remaining =>
      have rest := ih ⟨range, range.after address, remaining⟩
      rw [take_succ, List.length_cons]
      dsimp only at rest ⊢
      omega

/-- Every step of a walk counts one down, as long as any is to come. -/
theorem remaining_take (walk : Walk) (steps : Nat) :
    (walk.take steps).2.remaining = walk.remaining - steps := by
  -- A walk that is over stays as it is, and so does the difference.
  induction steps generalizing walk with
  | zero => rfl
  | succ steps ih =>
    obtain ⟨range, address, remaining⟩ := walk
    cases remaining with
    | zero => exact (Nat.zero_sub _).symm
    | succ remaining =>
      have rest := ih ⟨range, range.after address, remaining⟩
      rw [take_succ, Nat.add_sub_add_right]
      exact rest

/-- The first steps of a walk come to the first of the cells that all of it comes to. -/
theorem take_eq_take (walk : Walk) (steps : Nat) :
    (walk.take steps).1 = (walk.take walk.remaining).1.take steps := by
  -- Both sides come to the same cell first and go on from the one after it.
  induction steps generalizing walk with
  | zero => rfl
  | succ steps ih =>
    obtain ⟨range, address, remaining⟩ := walk
    cases remaining with
    | zero => rfl
    | succ remaining =>
      have rest := ih ⟨range, range.after address, remaining⟩
      dsimp only at rest ⊢
      rw [take_succ, take_succ, List.take_succ_cons, rest]

variable (inside : range.contains address = true) (ahead : remaining = range.ahead address)

include inside ahead

/-- A walk comes to the cells of its rectangle that have no more cells ahead than the one that it
stands at. -/
theorem mem_take {cell : Address} :
    cell ∈ ((⟨range, address, remaining⟩ : Walk).take remaining).1 ↔
      range.contains cell = true ∧ range.ahead cell ≤ remaining := by
  -- Cells with fewer ahead come later in the walk, and the number tells which cell it is.
  induction remaining generalizing address with
  | zero =>
    have positive : 0 < range.ahead address := Nat.succ_pos _
    omega
  | succ remaining ih =>
    rw [take_succ, List.mem_cons]
    have here : ∀ {cell}, range.contains cell = true → range.ahead cell = remaining + 1 →
        cell = address := fun cellInside same =>
      eq_of_ahead_eq cellInside inside (same.trans ahead)
    cases remaining with
    | zero =>
      -- This is the last cell, and no cell has none ahead.
      have positive : ∀ cell, 0 < range.ahead cell := fun _ => Nat.succ_pos _
      constructor
      · intro either
        obtain rfl := either.resolve_right List.not_mem_nil
        exact ⟨inside, Nat.le_of_eq ahead.symm⟩
      · intro meets
        exact .inl (here meets.1 (Nat.le_antisymm meets.2 (positive cell)))
    | succ remaining =>
      obtain ⟨stays, less⟩ := after_spec inside (by omega)
      rw [ih stays (by omega)]
      constructor
      · rintro (rfl | ⟨cellInside, fewer⟩)
        · exact ⟨inside, Nat.le_of_eq ahead.symm⟩
        · exact ⟨cellInside, by omega⟩
      · intro meets
        by_cases fewer : range.ahead cell ≤ remaining + 1
        · exact .inr ⟨meets.1, fewer⟩
        · exact .inl (here meets.1 (by omega))

/-- A walk comes to its cells in row order. -/
theorem pairwise_take :
    ((⟨range, address, remaining⟩ : Walk).take remaining).1.Pairwise Address.Before := by
  induction remaining generalizing address with
  | zero => exact .nil
  | succ remaining ih =>
    rw [take_succ]
    cases remaining with
    | zero => exact List.pairwise_singleton _ _
    | succ remaining =>
      obtain ⟨stays, less⟩ := after_spec inside (by omega)
      refine .cons (fun cell member => ?_) (ih stays (by omega))
      -- All cells that come later have fewer cells ahead.
      obtain ⟨cellInside, fewer⟩ := (mem_take stays (by omega)).mp member
      exact (before_iff_ahead_lt inside cellInside).mpr (by omega)

end Walking

section Cells

/-- A rectangle that cannot be counted is not walked through at all. -/
theorem cells_eq_nil (uncountable : ¬ range.Countable) : range.cells = [] := by
  rw [cells, count_eq_zero uncountable]
  rfl

/-- The walk through a rectangle that can be counted comes to the addresses in it. -/
theorem mem_cells (countable : range.Countable) :
    address ∈ range.cells ↔ range.contains address = true := by
  -- No cell of the rectangle has more cells ahead than the first one.
  have comes : address ∈ range.cells ↔
      range.contains address = true ∧ range.ahead address ≤ range.count :=
    mem_take range.contains_first countable.count_eq
  exact comes.trans (and_iff_left_of_imp fun inside =>
    countable.count_eq ▸ ahead_le_first inside)

/-- The walk through a rectangle comes to no address beside it. -/
theorem contains_of_mem_cells (member : address ∈ range.cells) :
    range.contains address = true := by
  by_cases countable : range.Countable
  · exact (mem_cells countable).mp member
  · rw [cells_eq_nil countable] at member
    exact nomatch member

/-- The walk through a rectangle is in row order. -/
theorem pairwise_cells (range : Range) : range.cells.Pairwise Address.Before := by
  by_cases countable : range.Countable
  · exact pairwise_take range.contains_first countable.count_eq
  · rw [cells_eq_nil countable]
    exact .nil

end Cells

section Sizes

/-- As long as a walk is not over, it stands at a cell of its rectangle with as many to come as
there are ahead. -/
def Walk.Stands (walk : Walk) : Prop :=
  0 < walk.remaining →
    walk.range.contains walk.next = true ∧ walk.remaining = walk.range.ahead walk.next

/-- A walk starts at a cell of its rectangle. -/
theorem stands_walk (countable : range.Countable) : range.walk.Stands :=
  fun _ => ⟨range.contains_first, countable.count_eq⟩

/-- A step of a walk leaves it at a cell of its rectangle. -/
theorem Walk.Stands.step {walk rest : Walk} (stands : walk.Stands)
    (stepped : walk.step? = some (address, rest)) : rest.Stands := by
  obtain ⟨range, next, remaining⟩ := walk
  cases remaining with
  | zero => exact nomatch stepped
  | succ remaining =>
    obtain ⟨inside, ahead⟩ := stands (Nat.succ_pos remaining)
    cases stepped
    -- As long as some cell remains there is one ahead of the walk to step to.
    intro more
    dsimp only at inside ahead more ⊢
    obtain ⟨stays, less⟩ := after_spec inside (by omega)
    exact ⟨stays, by omega⟩

/-- After any number of steps a walk stands at a cell of its rectangle. -/
theorem Walk.Stands.take {walk : Walk} (stands : walk.Stands) (steps : Nat) :
    (walk.take steps).2.Stands := by
  -- The induction goes from the walk to what is left of it after one step.
  induction steps generalizing walk with
  | zero => exact stands
  | succ steps ih =>
    cases stepped : walk.step? with
    | none => simpa only [Walk.take, stepped] using stands
    | some step => simpa only [Walk.take, stepped] using ih (stands.step stepped)

/-- The numbers of a walk's next step fit: there is room to count the column up where the row goes
on, and to count the row up where it ends, unless the step is the last one. -/
structure Walk.Fits (walk : Walk) : Prop where
  remaining : walk.remaining < UInt64.size
  col : 0 < walk.remaining → walk.next.col ≠ walk.range.last.col →
    walk.next.col.toNat + 1 < UInt32.size
  row : 1 < walk.remaining → walk.next.col = walk.range.last.col →
    walk.next.row.toNat + 1 < UInt32.size

/-- The numbers of a walk fit as long as it stands at a cell of its rectangle. -/
theorem Walk.Stands.fits {walk : Walk} (stands : walk.Stands)
    (small : walk.remaining < UInt64.size) : walk.Fits where
  remaining := small
  col more inner := by
    obtain ⟨inside, _⟩ := stands more
    obtain ⟨_, _, left⟩ := contains_iff.mp inside
    -- The column has not come to the last one, which is a number too.
    have further : walk.next.col.toNat ≠ walk.range.last.col.toNat :=
      fun same => inner (UInt32.toNat_inj.mp same)
    have limit := walk.range.last.col.toNat_lt
    simp only [UInt32.size]
    omega
  row more ends := by
    obtain ⟨inside, ahead⟩ := stands (Nat.zero_lt_of_lt more)
    obtain ⟨⟨_, below⟩, _, _⟩ := contains_iff.mp inside
    -- More cells than one are ahead at the end of a row, so there is a row below.
    have further : walk.next.row.toNat ≠ walk.range.last.row.toNat := by
      intro same
      rw [ahead, Range.ahead, same, ends, Nat.sub_self, Nat.sub_self, Nat.zero_mul] at more
      omega
    have limit := walk.range.last.row.toNat_lt
    simp only [UInt32.size]
    omega

/-- The cells of a rectangle are few enough for a number of 64 bits. -/
theorem count_lt (range : Range) : range.count < UInt64.size := by
  -- Two factors of half the width make a product of the whole width.
  have product := Nat.mul_lt_mul'' (range.last.row - range.first.row + 1).toNat_lt
    (range.last.col - range.first.col + 1).toNat_lt
  exact product

end Sizes

/-- The walk through the rectangle between two corners comes to exactly its cells, each of them once
and in row order. At any time it counts the cells that it has not come to, and no number is ever too
great for its type, as long as the rectangle does not take in all rows or all columns there are. -/
theorem ofCorners_enumerates (one other : Address)
    (rows : ¬ ((ofCorners one other).first.row = 0 ∧
      (ofCorners one other).last.row = 4294967295))
    (cols : ¬ ((ofCorners one other).first.col = 0 ∧
      (ofCorners one other).last.col = 4294967295)) :
    -- Either order of the corners and either diagonal tell the same rectangle.
    ofCorners other one = ofCorners one other ∧
      ofCorners ⟨one.row, other.col⟩ ⟨other.row, one.col⟩ = ofCorners one other ∧
      (∀ address, (ofCorners one other).contains address = true ↔
        (min one.row.toNat other.row.toNat ≤ address.row.toNat ∧
          address.row.toNat ≤ max one.row.toNat other.row.toNat) ∧
        min one.col.toNat other.col.toNat ≤ address.col.toNat ∧
          address.col.toNat ≤ max one.col.toNat other.col.toNat) ∧
      -- The walk comes to its cells and no others, in row order and hence to none twice.
      (∀ address, address ∈ (ofCorners one other).cells ↔
        (ofCorners one other).contains address = true) ∧
      (ofCorners one other).cells.Pairwise Address.Before ∧
      (ofCorners one other).cells.Nodup ∧
      (ofCorners one other).cells.length = (ofCorners one other).count ∧
      -- It comes to them one by one and keeps count of the ones to come.
      (∀ steps, ((ofCorners one other).walk.take steps).1 =
          (ofCorners one other).cells.take steps ∧
        ((ofCorners one other).walk.take steps).2.remaining =
          (ofCorners one other).count - ((ofCorners one other).walk.take steps).1.length) ∧
      -- The numbers of the rectangle are right and fit, and so do those of every step.
      (ofCorners one other).rowCount =
        max one.row.toNat other.row.toNat - min one.row.toNat other.row.toNat + 1 ∧
      (ofCorners one other).colCount =
        max one.col.toNat other.col.toNat - min one.col.toNat other.col.toNat + 1 ∧
      (ofCorners one other).rowCount < UInt32.size ∧
      (ofCorners one other).colCount < UInt32.size ∧
      (ofCorners one other).count < UInt64.size ∧
      ∀ steps, ((ofCorners one other).walk.take steps).2.Fits := by
  have countable : (ofCorners one other).Countable := ⟨rows, cols⟩
  have rowsRight := countable.rowCount_eq
  have colsRight := countable.colCount_eq
  -- The walk counts its cells down to nought, and stands at one of them until then.
  have accounts := remaining_add_length_take (ofCorners one other).walk
  have start : (ofCorners one other).walk.remaining = (ofCorners one other).count := rfl
  refine ⟨ofCorners_comm one other, ofCorners_diagonal one other, fun address => ?_,
    fun address => mem_cells countable, pairwise_cells _,
    Graph.nodup_of_pairwise_before (pairwise_cells _), ?_,
    fun steps => ⟨take_eq_take _ steps, ?_⟩, ?_, ?_, UInt32.toNat_lt _, UInt32.toNat_lt _,
    count_lt _, fun steps => ?_⟩
  · rw [contains_iff]
    simp only [ofCorners, toNat_min, toNat_max]
  · -- After as many steps as there are cells none is to come.
    have account := accounts (ofCorners one other).count
    have none := remaining_take (ofCorners one other).walk (ofCorners one other).count
    rw [start, Nat.sub_self] at none
    rw [none, Nat.zero_add] at account
    exact account
  · have account := accounts steps
    omega
  · rw [rowsRight, height]
    simp only [ofCorners, toNat_min, toNat_max]
  · rw [colsRight, width]
    simp only [ofCorners, toNat_min, toNat_max]
  · have account := accounts steps
    have fits := count_lt (ofCorners one other)
    exact ((stands_walk countable).take steps).fits (by omega)

/-- The four cells in the last two rows and columns of all are walked through to the very last. -/
theorem ofCorners_enumerates_lastCells :
    (ofCorners ⟨4294967294, 4294967295⟩ ⟨4294967295, 4294967294⟩).cells =
        [⟨4294967294, 4294967294⟩, ⟨4294967294, 4294967295⟩, ⟨4294967295, 4294967294⟩,
          ⟨4294967295, 4294967295⟩] ∧
      (ofCorners ⟨4294967294, 4294967295⟩ ⟨4294967295, 4294967294⟩).cells.Nodup ∧
      ∀ steps, ((ofCorners ⟨4294967294, 4294967295⟩
        ⟨4294967295, 4294967294⟩).walk.take steps).2.Fits := by
  obtain ⟨_, _, _, _, _, nodup, _, _, _, _, _, _, _, fits⟩ :=
    ofCorners_enumerates ⟨4294967294, 4294967295⟩ ⟨4294967295, 4294967294⟩ (by decide) (by decide)
  exact ⟨by decide, nodup, fits⟩

end Range

end Spreadsheet
