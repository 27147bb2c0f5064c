import Mathlib.Order.Monotone.Basic
import Spreadsheet.Decimal.Binary
import Spreadsheet.Proofs.Decimal.Rounding

/-! The magnitudes of doubles as steps of their spacing, and which of them is nearest to a ratio. -/

namespace Spreadsheet.Decimal

/-- Powers of two multiply by adding their exponents. -/
theorem twoTo_add (left right : Nat) : twoTo (left + right) = twoTo left * twoTo right :=
  Nat.pow_add 2 left right

/-- A power of two is positive. -/
theorem twoTo_pos (exponent : Nat) : 0 < twoTo exponent :=
  Nat.two_pow_pos exponent

/-- A power of ten is positive. -/
theorem tenTo_pos (exponent : Nat) : 0 < tenTo exponent :=
  Nat.pow_pos (by decide)

/-- Powers of two grow with their exponents. -/
theorem twoTo_le_twoTo {small large : Nat} (le : small ≤ large) : twoTo small ≤ twoTo large :=
  Nat.pow_le_pow_right (by decide) le

/-- Powers of two grow strictly. -/
theorem twoTo_lt_twoTo {small large : Nat} (less : small < large) : twoTo small < twoTo large :=
  Nat.pow_lt_pow_right (by decide) less

namespace Binary

variable {bits spacing steps num den : Nat}

/-- There are fractions. -/
theorem fractions_pos : 0 < fractions :=
  twoTo_pos 52

/-- There are units in one. -/
theorem unitsPerOne_pos : 0 < unitsPerOne :=
  twoTo_pos 1074

/-- Twice as many fractions have one more bit. -/
theorem two_mul_fractions : 2 * fractions = twoTo 53 := by
  decide

section Layout

/-- A magnitude without an exponent is its fraction. -/
theorem unitsOfBits_of_lt (less : bits < fractions) : unitsOfBits bits = bits := by
  rw [unitsOfBits, Nat.div_eq_of_lt less, Nat.mod_eq_of_lt less]
  rfl

/-- A magnitude with an exponent has a hidden bit in front of its fraction. -/
theorem unitsOfBits_of_exponent {fraction : Nat} (exponent : Nat) (less : fraction < fractions) :
    unitsOfBits ((exponent + 1) * fractions + fraction) =
      (fraction + fractions) * twoTo exponent := by
  have quotient : ((exponent + 1) * fractions + fraction) / fractions = exponent + 1 := by
    rw [Nat.mul_comm, Nat.mul_add_div fractions_pos, Nat.div_eq_of_lt less, Nat.add_zero]
  rw [unitsOfBits, quotient, Nat.mul_add_mod', Nat.mod_eq_of_lt less]
  rfl

/-- Steps of a spacing as a magnitude has them: as many as fifty-three bits can count, and no fewer
than half of that unless the spacing is least. -/
structure Stepped (spacing steps : Nat) : Prop where
  few : steps ≤ 2 * fractions
  full : spacing = 0 ∨ fractions ≤ steps

/-- The bits of a magnitude count up its steps and, for each further spacing, all fractions. -/
theorem Stepped.unitsOfBits (stepped : Stepped spacing steps) :
    unitsOfBits (spacing * fractions + steps) = steps * twoTo spacing := by
  -- The exponent that the bits tell depends on whether the steps fill a binade, and on a carry.
  rcases Nat.lt_or_ge steps fractions with less | full
  · -- The spacing is least, and there is no exponent.
    obtain rfl := stepped.full.resolve_right (Nat.not_le.mpr less)
    rw [Nat.zero_mul, Nat.zero_add, unitsOfBits_of_lt less]
    exact (Nat.mul_one steps).symm
  · obtain ⟨fraction, rfl⟩ := Nat.exists_eq_add_of_le' full
    have few := stepped.few
    rcases Nat.lt_or_ge fraction fractions with less | carried
    · have bits : spacing * fractions + (fraction + fractions) =
          (spacing + 1) * fractions + fraction := by
        rw [Nat.succ_mul]
        omega
      rw [bits, unitsOfBits_of_exponent spacing less]
    · -- All steps are taken, which carries into the exponent.
      obtain rfl : fraction = fractions := by omega
      have bits : spacing * fractions + (fractions + fractions) =
          (spacing + 1 + 1) * fractions + 0 := by
        rw [Nat.succ_mul, Nat.succ_mul]
        omega
      have double : twoTo (spacing + 1) = twoTo spacing * 2 := twoTo_add spacing 1
      rw [bits, unitsOfBits_of_exponent (spacing + 1) fractions_pos, double, Nat.zero_add,
        Nat.mul_comm (twoTo spacing), ← Nat.mul_assoc, Nat.mul_two]

/-- Every magnitude counts steps of its spacing, and could count one more. -/
theorem exists_stepped (bits : Nat) : ∃ spacing steps,
    bits = spacing * fractions + steps ∧ steps < 2 * fractions ∧ Stepped spacing steps := by
  have split := Nat.div_add_mod' bits fractions
  have less := Nat.mod_lt bits fractions_pos
  cases exponent : bits / fractions with
  | zero =>
    rw [exponent] at split
    exact ⟨0, bits % fractions, split.symm, by omega, by omega, .inl rfl⟩
  | succ spacing =>
    rw [exponent, Nat.succ_mul] at split
    exact ⟨spacing, bits % fractions + fractions, by omega, by omega, by omega, .inr (by omega)⟩

/-- The next magnitude is one step of the spacing greater. -/
theorem Stepped.unitsOfBits_succ (stepped : Stepped spacing steps) (room : steps < 2 * fractions) :
    Binary.unitsOfBits (spacing * fractions + steps + 1) =
      Binary.unitsOfBits (spacing * fractions + steps) + twoTo spacing := by
  have next : Stepped spacing (steps + 1) := ⟨room, stepped.full.imp_right Nat.le_succ_of_le⟩
  rw [Nat.add_assoc, next.unitsOfBits, stepped.unitsOfBits, Nat.succ_mul]

/-- Magnitudes grow with their bits. -/
theorem strictMono_unitsOfBits : StrictMono unitsOfBits := by
  refine strictMono_nat_of_lt_succ fun bits => ?_
  obtain ⟨spacing, steps, rfl, room, stepped⟩ := exists_stepped bits
  rw [stepped.unitsOfBits_succ room]
  exact Nat.lt_add_of_pos_right (twoTo_pos spacing)

/-- The finite magnitudes end one step before what the bits of infinity would stand for. -/
theorem unitsOfBits_add_le (finite : bits < infinityBits) :
    unitsOfBits bits + twoTo 2045 ≤ unitsOfBits infinityBits := by
  have positive := fractions_pos
  have last : Stepped 2045 (2 * fractions - 1) := ⟨by omega, .inr (by omega)⟩
  have greatest : 2045 * fractions + (2 * fractions - 1) + 1 = infinityBits := by
    unfold infinityBits
    omega
  have next := last.unitsOfBits_succ (by omega)
  rw [greatest] at next
  rw [next]
  exact Nat.add_le_add_right (strictMono_unitsOfBits.monotone (by omega)) _

end Layout

section Nearest

/-- The spacing of the magnitudes around a ratio. -/
def spacingAt (num den : Nat) : Nat :=
  Nat.log2 (num * unitsPerOne / den) - 52

/-- The steps of that spacing that come nearest to the ratio. -/
def stepsAt (num den : Nat) : Nat :=
  roundRatio (num * unitsPerOne) (den * twoTo (spacingAt num den))

/-- The bits of the magnitude nearest to a ratio, if there were no infinity. -/
def freeBits (num den : Nat) : Nat :=
  spacingAt num den * fractions + stepsAt num den

/-- The bits of the nearest magnitude end at infinity. -/
theorem nearestBits_eq (num den : Nat) :
    nearestBits num den = min (freeBits num den) infinityBits :=
  rfl

/-- A ratio has fifty-three bits before the point in the spacing around it, or fewer. -/
theorem lt_spacingAt (num : Nat) (positive : 0 < den) :
    num * unitsPerOne < 2 * fractions * (den * twoTo (spacingAt num den)) := by
  have bound : num * unitsPerOne / den < twoTo 53 * twoTo (spacingAt num den) := by
    rw [← twoTo_add]
    refine Nat.lt_of_lt_of_le Nat.lt_log2_self (twoTo_le_twoTo ?_)
    unfold spacingAt
    omega
  rw [two_mul_fractions, Nat.mul_comm den, ← Nat.mul_assoc]
  exact (Nat.div_lt_iff_lt_mul positive).mp bound

/-- Where the spacing is not the least one, a ratio has no fewer than fifty-three bits. -/
theorem spacingAt_le (wide : spacingAt num den ≠ 0) :
    fractions * (den * twoTo (spacingAt num den)) ≤ num * unitsPerOne := by
  have exponent : Nat.log2 (num * unitsPerOne / den) = 52 + spacingAt num den := by
    unfold spacingAt at *
    omega
  have nonzero : num * unitsPerOne / den ≠ 0 := by
    intro zero
    rw [zero, Nat.log2_zero] at exponent
    omega
  -- A number is no less than the power of two that its logarithm tells.
  have bound : fractions * twoTo (spacingAt num den) ≤ num * unitsPerOne / den := by
    show twoTo 52 * _ ≤ _
    rw [← twoTo_add, ← exponent]
    exact Nat.log2_self_le nonzero
  rw [Nat.mul_comm den, ← Nat.mul_assoc]
  exact Nat.mul_le_of_le_div _ _ _ bound

/-- The nearest steps are those of a magnitude. -/
theorem stepped_nearest (positive : 0 < den) :
    Stepped (spacingAt num den) (stepsAt num den) := by
  have step : 0 < den * twoTo (spacingAt num den) := Nat.mul_pos positive (twoTo_pos _)
  have half : 2 * Nat.dist _ (stepsAt num den * _) ≤ _ :=
    dist_roundRatio_le (num * unitsPerOne) step
  have upper := lt_spacingAt num positive
  unfold Nat.dist at half
  constructor
  case few =>
    -- One step more would be more than half a step beyond the ratio.
    by_contra many
    have beyond := Nat.mul_le_mul_right (den * twoTo (spacingAt num den)) (Nat.not_le.mp many)
    rw [Nat.succ_mul] at beyond
    omega
  case full =>
    by_contra neither
    obtain ⟨wide, less⟩ := not_or.mp neither
    have lower := spacingAt_le wide
    have below := Nat.mul_le_mul_right (den * twoTo (spacingAt num den)) (Nat.not_le.mp less)
    rw [Nat.succ_mul] at below
    omega

/-- The units of the nearest magnitude, if there were no infinity. -/
theorem unitsOfBits_freeBits (positive : 0 < den) :
    unitsOfBits (freeBits num den) = stepsAt num den * twoTo (spacingAt num den) :=
  (stepped_nearest positive).unitsOfBits

/-- No magnitude is nearer to a ratio than the nearest one. -/
theorem freeBits_nearest (num : Nat) (positive : 0 < den) (bits : Nat) :
    Nat.dist (num * unitsPerOne) (unitsOfBits (freeBits num den) * den) ≤
      Nat.dist (num * unitsPerOne) (unitsOfBits bits * den) := by
  obtain ⟨spacing, steps, rfl, room, stepped⟩ := exists_stepped bits
  rw [unitsOfBits_freeBits positive, stepped.unitsOfBits]
  have step : 0 < den * twoTo (spacingAt num den) := Nat.mul_pos positive (twoTo_pos _)
  have nearest := roundRatio_nearest (num * unitsPerOne) step
  have regroup : ∀ count, count * twoTo (spacingAt num den) * den =
      count * (den * twoTo (spacingAt num den)) := fun count => by
    rw [Nat.mul_assoc, Nat.mul_comm den]
  rw [regroup]
  rcases Nat.lt_or_ge spacing (spacingAt num den) with fine | coarse
  · -- A magnitude of a finer spacing lies below the least one of this spacing, and that one below
    -- the ratio.
    have least := nearest fractions
    have lower := spacingAt_le (Nat.ne_of_gt (Nat.zero_lt_of_lt fine))
    have below : steps * twoTo spacing * den ≤
        fractions * (den * twoTo (spacingAt num den)) := by
      rw [← regroup]
      refine Nat.mul_le_mul_right den ?_
      calc steps * twoTo spacing
        _ ≤ 2 * fractions * twoTo spacing := Nat.mul_le_mul_right _ room.le
        _ = fractions * twoTo (spacing + 1) := by
          rw [twoTo_add, Nat.mul_comm 2, Nat.mul_assoc, Nat.mul_comm 2]
          rfl
        _ ≤ fractions * twoTo (spacingAt num den) :=
          Nat.mul_le_mul_left _ (twoTo_le_twoTo fine)
    unfold stepsAt Nat.dist at *
    omega
  · -- A magnitude of the same spacing or a coarser one is a number of steps of this spacing.
    obtain ⟨further, rfl⟩ := Nat.exists_eq_add_of_le' coarse
    have count : steps * twoTo (further + spacingAt num den) * den =
        steps * twoTo further * (den * twoTo (spacingAt num den)) := by
      rw [twoTo_add, ← Nat.mul_assoc, regroup]
    rw [count]
    exact nearest _

/-- Near a finite magnitude the nearest one is finite, too. -/
theorem freeBits_lt_infinityBits (positive : 0 < den) (finite : bits < infinityBits)
    (near : 2 * Nat.dist (num * unitsPerOne) (unitsOfBits bits * den) < twoTo 2045 * den) :
    freeBits num den < infinityBits := by
  have closer := freeBits_nearest num positive bits
  have between := Nat.dist.triangle_inequality (unitsOfBits bits * den) (num * unitsPerOne)
    (unitsOfBits (freeBits num den) * den)
  rw [Nat.dist_comm (unitsOfBits bits * den) (num * unitsPerOne), Nat.dist_mul_right] at between
  have less := Nat.lt_of_mul_lt_mul_right (Nat.lt_of_le_of_lt between (by omega :
    _ < twoTo 2045 * den))
  -- From infinity on all magnitudes are a whole step of the greatest spacing away.
  by_contra beyond
  have far := unitsOfBits_add_le finite
  have further := strictMono_unitsOfBits.monotone (Nat.not_lt.mp beyond)
  unfold Nat.dist at less
  omega

/-- The nearest magnitude does not depend on how a ratio is written. -/
theorem nearestBits_mul_mul {scale : Nat} (positive : 0 < den) (scaled : 0 < scale) :
    nearestBits (num * scale) (den * scale) = nearestBits num den := by
  have same : num * scale * unitsPerOne = num * unitsPerOne * scale := Nat.mul_right_comm ..
  -- Both the spacing and the steps are read off a quotient, in which the scale cancels.
  have spacing : spacingAt (num * scale) (den * scale) = spacingAt num den := by
    rw [spacingAt, same, Nat.mul_div_mul_right _ _ scaled]
    rfl
  have steps : stepsAt (num * scale) (den * scale) = stepsAt num den := by
    rw [stepsAt, spacing, same, Nat.mul_right_comm den,
      roundRatio_mul_mul (Nat.mul_pos positive (twoTo_pos _)) scaled]
    rfl
  rw [nearestBits_eq, nearestBits_eq, freeBits, spacing, steps]
  rfl

end Nearest

end Binary

end Spreadsheet.Decimal
