import Spreadsheet.Range

/-! The rows and the columns of a rectangle can be counted unless it has all there are, and a step
of the walk through it stays inside it. -/

namespace Spreadsheet.Range

variable {range : Range} {address : Address}

/-- An address lies in a rectangle if its row and its column are between those of the corners. -/
theorem contains_iff : range.contains address = true ↔
    (range.first.row.toNat ≤ address.row.toNat ∧ address.row.toNat ≤ range.last.row.toNat) ∧
      range.first.col.toNat ≤ address.col.toNat ∧ address.col.toNat ≤ range.last.col.toNat := by
  simp only [contains, Bool.and_eq_true, decide_eq_true_eq, UInt32.le_iff_toNat_le, and_assoc]

section Counting

/-- A rectangle has neither all the rows nor all the columns that there are, so that both can be
counted. -/
structure Countable (range : Range) : Prop where
  rows : ¬ (range.first.row = 0 ∧ range.last.row = 4294967295)
  cols : ¬ (range.first.col = 0 ∧ range.last.col = 4294967295)

/-- A rectangle that counts from one can be counted, since it leaves out none. -/
theorem countable_of_one_le (col : 1 ≤ range.first.col.toNat) (row : 1 ≤ range.first.row.toNat) :
    range.Countable where
  rows all := by
    rw [all.1] at row
    exact absurd row (by decide)
  cols all := by
    rw [all.1] at col
    exact absurd col (by decide)

/-- How many rows there are from the top of a rectangle to its bottom. -/
def height (range : Range) : Nat :=
  range.last.row.toNat - range.first.row.toNat + 1

/-- How many columns there are from the left of a rectangle to its right. -/
def width (range : Range) : Nat :=
  range.last.col.toNat - range.first.col.toNat + 1

/-- Counted in 32 bits, the numbers from one to another come to how many they are, unless they are
all the numbers there are. -/
theorem toNat_span {first last : UInt32} (ordered : first ≤ last)
    (part : ¬ (first = 0 ∧ last = 4294967295)) :
    (last - first + 1).toNat = last.toNat - first.toNat + 1 := by
  -- Only from none to the greatest there are more numbers than fit.
  have limit := last.toNat_lt
  rw [← UInt32.toNat_inj, ← UInt32.toNat_inj] at part
  simp only [UInt32.reduceToNat] at part
  rw [UInt32.toNat_add, UInt32.toNat_sub_of_le _ _ ordered, UInt32.toNat_one, Nat.mod_eq_of_lt]
  omega

/-- Counted in 32 bits, all the numbers there are come to none. -/
theorem toNat_span_all {first last : UInt32} (all : first = 0 ∧ last = 4294967295) :
    (last - first + 1).toNat = 0 := by
  obtain ⟨rfl, rfl⟩ := all
  rfl

/-- The rows of a rectangle that can be counted are as many as its count of them says. -/
theorem Countable.rowCount_eq (countable : range.Countable) : range.rowCount = range.height :=
  toNat_span range.rows_ordered countable.rows

/-- The columns of a rectangle that can be counted are as many as its count of them says. -/
theorem Countable.colCount_eq (countable : range.Countable) : range.colCount = range.width :=
  toNat_span range.cols_ordered countable.cols

/-- A rectangle whose rows or columns cannot be counted has no cells by its count of them. -/
theorem count_eq_zero (uncountable : ¬ range.Countable) : range.count = 0 := by
  by_cases rows : range.first.row = 0 ∧ range.last.row = 4294967295
  · rw [count, rowCount, toNat_span_all rows, Nat.zero_mul]
  · by_cases cols : range.first.col = 0 ∧ range.last.col = 4294967295
    · rw [count, colCount, toNat_span_all cols, Nat.mul_zero]
    · exact absurd ⟨rows, cols⟩ uncountable

/-- How many cells of a rectangle are still to come from an address on: the rest of its row, and all
of the rows below. -/
def ahead (range : Range) (address : Address) : Nat :=
  (range.last.row.toNat - address.row.toNat) * range.width +
    (range.last.col.toNat - address.col.toNat + 1)

/-- All cells are still to come at the first corner. -/
theorem Countable.count_eq (countable : range.Countable) :
    range.count = range.ahead range.first := by
  rw [ahead, count, countable.rowCount_eq, countable.colCount_eq, height, Nat.add_mul, Nat.one_mul,
    width]

end Counting

section Stepping

/-- Counting on by one stays below the size of a number where a greater one is there. -/
theorem toNat_succ {number greater : UInt32} (less : number.toNat < greater.toNat) :
    (number + 1).toNat = number.toNat + 1 := by
  have size := greater.toNat_lt
  rw [UInt32.toNat_add, Nat.mod_eq_of_lt]
  · rfl
  · show number.toNat + 1 < 2 ^ 32
    omega

/-- The cell after one of a rectangle is in it and has one cell less ahead, if any is left. -/
theorem after_spec (inside : range.contains address = true) (more : 1 < range.ahead address) :
    range.contains (range.after address) = true ∧
      range.ahead (range.after address) + 1 = range.ahead address := by
  obtain ⟨⟨above, below⟩, left, right⟩ := contains_iff.mp inside
  rw [contains_iff]
  unfold after
  -- The walk starts a new row behind the last column, and goes on to the right before it.
  split
  · -- At the end of a row there are rows below, and the next of them starts on the left.
    rename_i ends
    have rest : 0 < (range.last.row.toNat - address.row.toNat) * range.width := by
      rw [ahead, ends, Nat.sub_self] at more
      omega
    have lower : address.row.toNat < range.last.row.toNat := by
      have := Nat.pos_of_mul_pos_right rest
      omega
    have room : address.row.toNat + 1 < UInt32.size :=
      Nat.lt_of_le_of_lt lower range.last.row.toNat_lt
    have next := toNat_succ lower
    obtain ⟨rows, split⟩ := Nat.exists_eq_add_of_lt lower
    rw [if_pos room]
    refine ⟨by dsimp only; omega, ?_⟩
    have here : range.last.row.toNat - address.row.toNat = rows + 1 := by omega
    have there : range.last.row.toNat - (address.row + 1).toNat = rows := by omega
    rw [ahead, ahead, here, there, ends, Nat.sub_self, Nat.add_mul, Nat.one_mul]
    rfl
  · -- Elsewhere the row goes on.
    rename_i inner
    have further : address.col.toNat < range.last.col.toNat :=
      Nat.lt_of_le_of_ne right fun same => inner (UInt32.toNat_inj.mp same)
    have next := toNat_succ further
    refine ⟨by dsimp only; omega, ?_⟩
    rw [ahead, ahead]
    dsimp only
    omega

end Stepping

end Spreadsheet.Range
