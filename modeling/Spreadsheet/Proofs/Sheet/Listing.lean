import Mathlib.Data.List.Sort
import Spreadsheet.Proofs.Range.Enumeration
import Spreadsheet.Proofs.Sheet.Grid

/-! The cells of a grid are listed in the order in which the walk through its bounds comes to
them. -/

namespace Spreadsheet

namespace Address

/-- No address stands before itself. -/
instance : Std.Irrefl Before where
  irrefl := not_before_self

/-- Of two addresses at most one stands before the other. -/
instance : Std.Antisymm Before where
  antisymm left _ before after := absurd (before.trans after) left.not_before_self

end Address

namespace Sheet

variable {sheet : Sheet} {address other : Address} {range : Range}

section Bounds

/-- The addresses of the grid, in the order of a walk through its bounds. -/
def addresses (sheet : Sheet) : List Address :=
  sheet.bounds.elim [] Range.cells

/-- A grid without rows or without columns has no bounds, and contains nothing. -/
theorem not_contains_of_bounds (bounds : sheet.bounds = none) (address : Address) :
    sheet.contains address = false := by
  unfold Sheet.bounds at bounds
  split at bounds
  · rename_i flat
    rw [← UInt32.toNat_inj, ← UInt32.toNat_inj, UInt32.toNat_zero] at flat
    rw [Bool.eq_false_iff, Ne, contains_iff]
    omega
  · exact nomatch bounds

/-- The bounds of a grid contain what the grid contains. -/
theorem contains_of_bounds (bounds : sheet.bounds = some range) (address : Address) :
    range.contains address = sheet.contains address := by
  unfold Sheet.bounds at bounds
  split at bounds
  · exact nomatch bounds
  · rename_i spacious
    rw [← UInt32.toNat_inj, ← UInt32.toNat_inj, UInt32.toNat_zero] at spacious
    obtain rfl := Option.some.inj bounds
    rw [Bool.eq_iff_iff, Range.contains_iff, contains_iff]
    simp only [Range.ofCorners, Range.toNat_min, Range.toNat_max, UInt32.toNat_one]
    omega

/-- The bounds of a grid can be counted, since they count from one. -/
theorem countable_of_bounds (bounds : sheet.bounds = some range) : range.Countable := by
  unfold Sheet.bounds at bounds
  split at bounds
  · exact nomatch bounds
  · rename_i spacious
    rw [← UInt32.toNat_inj, ← UInt32.toNat_inj, UInt32.toNat_zero] at spacious
    obtain rfl := Option.some.inj bounds
    apply Range.countable_of_one_le <;>
      simp only [Range.ofCorners, Range.toNat_min, UInt32.toNat_one] <;> omega

/-- The addresses of the grid are those that it contains. -/
theorem mem_addresses : address ∈ sheet.addresses ↔ sheet.contains address = true := by
  unfold addresses
  cases bounds : sheet.bounds with
  | none => simp [not_contains_of_bounds bounds]
  | some range =>
    rw [Option.elim_some, Range.mem_cells (countable_of_bounds bounds), contains_of_bounds bounds]

/-- The addresses of the grid are in row order. -/
theorem pairwise_addresses (sheet : Sheet) : sheet.addresses.Pairwise Address.Before := by
  unfold addresses
  cases sheet.bounds with
  | none => exact .nil
  | some range => exact range.pairwise_cells

end Bounds

section Places

variable (inside : sheet.contains address = true) (otherInside : sheet.contains other = true)

include inside otherInside

/-- An address that stands before another has an earlier place. -/
theorem index_lt_of_before (before : address.Before other) :
    sheet.index address < sheet.index other := by
  obtain ⟨_, left, right⟩ := contains_iff.mp inside
  obtain ⟨_, otherLeft, _⟩ := contains_iff.mp otherInside
  unfold index
  rcases Address.before_iff.mp before with upper | ⟨same, further⟩
  · -- The row of the first one ends before the row of the second one starts.
    have rows := Nat.mul_le_mul_right sheet.cols.toNat
      (show address.row.toNat - 1 + 1 ≤ other.row.toNat - 1 by omega)
    rw [Nat.add_mul, Nat.one_mul] at rows
    omega
  · rw [same]
    omega

/-- One address stands before another exactly if it has an earlier place. -/
theorem before_iff_index_lt : address.Before other ↔ sheet.index address < sheet.index other := by
  refine ⟨index_lt_of_before inside otherInside, fun less => ?_⟩
  have different : address ≠ other := by
    rintro rfl
    exact Nat.lt_irrefl _ less
  -- The other way round the places would be as well.
  refine (Address.before_or_before different).resolve_right fun after => ?_
  have more := index_lt_of_before otherInside inside after
  omega

end Places

/-- The cells are listed in row order. -/
theorem pairwise_toList (sheet : Sheet) :
    (sheet.toList.map Prod.fst).Pairwise Address.Before := by
  rw [map_fst_toList, List.pairwise_map]
  refine List.pairwise_lt_range.imp_of_mem fun {place later} member laterMember less => ?_
  obtain ⟨inside, here⟩ := addressOfPlace_spec (List.mem_range.mp member)
  obtain ⟨laterInside, there⟩ := addressOfPlace_spec (List.mem_range.mp laterMember)
  rw [before_iff_index_lt inside laterInside, here, there]
  exact less

/-- The cells are listed at the addresses of the grid, in the order of these. -/
theorem addresses_toList (sheet : Sheet) : sheet.toList.map Prod.fst = sheet.addresses := by
  refine sheet.pairwise_toList.eq_of_mem_iff sheet.pairwise_addresses fun address => ?_
  -- An address is listed if it has a cell, and it has one if it is in the grid.
  rw [mem_addresses, ← isSome_cellAt?, Option.isSome_iff_exists]
  simp only [List.mem_map, Prod.exists, exists_and_right, exists_eq_right, mem_toList]

/-- The cells are listed exactly at the addresses of the grid, each with the one that is there. -/
theorem toList_eq (sheet : Sheet) : sheet.toList =
    sheet.addresses.filterMap fun address => (sheet.cellAt? address).map (address, ·) := by
  rw [← addresses_toList, List.filterMap_map]
  -- What is listed at an address is the cell that is looked up there.
  refine ((List.filterMap_congr fun entry member => ?_).trans List.filterMap_some).symm
  obtain ⟨address, cell⟩ := entry
  have found : sheet.cellAt? address = some cell := mem_toList.mp member
  simp only [Function.comp_apply, found, Option.map_some]

end Sheet

end Spreadsheet
