import Mathlib.Data.List.Basic
import Spreadsheet.Graph.Basic

/-! Lists in row order: rows from the top, columns from the left, and no address twice. -/

namespace Spreadsheet

namespace Address

/-- An address stands before another in row order: in an earlier row, or further left in its row. -/
def Before (left right : Address) : Prop :=
  left.row < right.row ∨ left.row = right.row ∧ left.col < right.col

/-- The comparison of addresses is the one by rows first and columns second. -/
theorem compare_eq_lt_iff (left right : Address) :
    compare left right = .lt ↔ left.Before right := by
  -- The rows decide unless they are equal in order, which for words means equal.
  have rows : compareOn Address.row left right = compare left.row right.row := rfl
  have cols : compareOn Address.col left right = compare left.col right.col := rfl
  show (compareOn Address.row left right).then (compareOn Address.col left right) = .lt ↔ _
  rw [Ordering.then_eq_lt, rows, cols, Std.compare_eq_lt, Std.compare_eq_lt,
    Std.LawfulEqOrd.compare_eq_iff_eq]
  rfl

/-- Standing before in row order carries over. -/
theorem Before.trans {first second third : Address} (left : first.Before second)
    (right : second.Before third) : first.Before third := by
  -- The order of addresses is transitive, and standing before is being less in it.
  rw [← compare_eq_lt_iff] at left right ⊢
  exact Std.TransCmp.lt_trans left right

/-- No address stands before itself. -/
theorem not_before_self (address : Address) : ¬ address.Before address := by
  have same : compare address address = .eq := Std.ReflOrd.compare_self
  rw [← compare_eq_lt_iff, same]
  decide

end Address

namespace Graph

/-- Placing an address adds it to the list and nothing else. -/
theorem mem_place {address other : Address} {placed : List Address} :
    other ∈ place address placed ↔ other = address ∨ other ∈ placed := by
  -- The three outcomes of one comparison are the three things that placing can do.
  induction placed with
  | nil => simp [place]
  | cons first rest ih =>
    cases order : compare address first with
    | lt => simp [place, order]
    | eq =>
      -- Equal in order is equal, so the address is there already.
      have same : address = first := Std.LawfulEqOrd.eq_of_compare order
      simp [place, same]
    | gt =>
      simp only [place, order, List.mem_cons, ih]
      tauto

/-- Placing an address keeps a list in row order. -/
theorem pairwise_place {address : Address} {placed : List Address}
    (ordered : placed.Pairwise Address.Before) :
    (place address placed).Pairwise Address.Before := by
  -- What goes into the rest stands after the first, as all of the rest does already.
  induction placed with
  | nil => simp [place]
  | cons first rest ih =>
    have head : ∀ other ∈ rest, first.Before other := (List.pairwise_cons.mp ordered).1
    have tail : rest.Pairwise Address.Before := (List.pairwise_cons.mp ordered).2
    cases order : compare address first with
    | lt =>
      have before : address.Before first := (Address.compare_eq_lt_iff _ _).mp order
      simp only [place, order]
      refine List.pairwise_cons.mpr ⟨?_, ordered⟩
      intro other member
      rcases List.mem_cons.mp member with same | later
      · exact same ▸ before
      · exact before.trans (head other later)
    | eq => simpa only [place, order] using ordered
    | gt =>
      have before : first.Before address :=
        (Address.compare_eq_lt_iff _ _).mp (Std.OrientedCmp.lt_of_gt order)
      simp only [place, order]
      refine List.pairwise_cons.mpr ⟨?_, ih tail⟩
      intro other member
      rcases mem_place.mp member with same | later
      · exact same ▸ before
      · exact head other later

/-- Sorting into row order keeps exactly the addresses there are. -/
theorem mem_inRowOrder {address : Address} {addresses : List Address} :
    address ∈ inRowOrder addresses ↔ address ∈ addresses := by
  -- Each address of the list is placed into what the ones before it gave.
  have fold : ∀ placed, address ∈ addresses.foldl (fun placed next => place next placed) placed ↔
      address ∈ placed ∨ address ∈ addresses := by
    induction addresses with
    | nil => simp
    | cons first rest ih =>
      intro placed
      rw [List.foldl_cons, ih, mem_place, List.mem_cons]
      tauto
  simpa [inRowOrder] using fold []

/-- Sorting into row order gives a list in row order. -/
theorem pairwise_inRowOrder (addresses : List Address) :
    (inRowOrder addresses).Pairwise Address.Before := by
  -- Sorting starts from the empty list, and each placing keeps the order.
  have fold : ∀ placed : List Address, placed.Pairwise Address.Before →
      (addresses.foldl (fun placed next => place next placed) placed).Pairwise Address.Before := by
    induction addresses with
    | nil => exact fun _ ordered => ordered
    | cons first rest ih => exact fun placed ordered => ih _ (pairwise_place ordered)
  exact fold [] List.Pairwise.nil

/-- A list in row order has no address twice. -/
theorem nodup_of_pairwise_before {addresses : List Address}
    (ordered : addresses.Pairwise Address.Before) : addresses.Nodup := by
  -- An address that is there twice would stand before itself.
  refine ordered.imp fun {left right} before same => ?_
  subst same
  exact left.not_before_self before

end Graph

end Spreadsheet
