import Mathlib.Data.Nat.Dist
import Spreadsheet.Decimal.Basic

/-! A rounded ratio is the nearest whole number, the even one where two are equally near. -/

namespace Spreadsheet.Decimal

variable {num den whole : Nat}

/-- A ratio is rounded to the number less than half a step away, or to the even one of the two that
are half a step away. -/
theorem roundRatio_eq_iff (positive : 0 < den) : roundRatio num den = whole ↔
    2 * Nat.dist num (whole * den) < den ∨
      2 * Nat.dist num (whole * den) = den ∧ whole % 2 = 0 := by
  have split := Nat.div_add_mod' num den
  have small := Nat.mod_lt num positive
  have next : (num / den + 1) * den = num / den * den + den := Nat.succ_mul _ _
  unfold roundRatio Nat.dist
  dsimp only
  -- The number is the quotient, the one after it, or at least a whole step away.
  rcases Nat.lt_trichotomy whole (num / den) with below | rfl | above
  · have far : whole * den + den ≤ num / den * den := by
      rw [← Nat.succ_mul]
      exact Nat.mul_le_mul_right den below
    split_ifs <;> omega
  · split_ifs <;> omega
  · rcases Nat.eq_or_lt_of_le (Nat.succ_le_of_lt above) with rfl | beyond
    · simp only [Nat.succ_eq_add_one, next]
      split_ifs <;> omega
    · have far : (num / den + 1) * den + den ≤ whole * den := by
        rw [← Nat.succ_mul]
        exact Nat.mul_le_mul_right den beyond
      split_ifs <;> omega

/-- A ratio is at most half a step away from where it is rounded to. -/
theorem dist_roundRatio_le (num : Nat) (positive : 0 < den) :
    2 * Nat.dist num (roundRatio num den * den) ≤ den := by
  rcases (roundRatio_eq_iff positive).mp rfl with near | ⟨tie, _⟩
  · exact near.le
  · exact tie.le

/-- No whole number is nearer to a ratio than the one that it is rounded to. -/
theorem roundRatio_nearest (num : Nat) (positive : 0 < den) (other : Nat) :
    Nat.dist num (roundRatio num den * den) ≤ Nat.dist num (other * den) := by
  have half := dist_roundRatio_le num positive
  have between := Nat.dist.triangle_inequality (other * den) num (roundRatio num den * den)
  rw [Nat.dist_comm (other * den) num] at between
  by_cases same : other = roundRatio num den
  · rw [same]
  · -- Another number is a whole step away, of which the ratio is at most half a step away.
    have apart : den ≤ Nat.dist (other * den) (roundRatio num den * den) := by
      rw [Nat.dist_mul_right]
      exact Nat.le_mul_of_pos_left den (Nat.dist_pos_of_ne same)
    omega

/-- What is no further away from where a ratio is rounded to is rounded to the same number. -/
theorem roundRatio_eq_of_dist_le {other : Nat} (positive : 0 < den)
    (closer : Nat.dist other (roundRatio num den * den) ≤
      Nat.dist num (roundRatio num den * den)) : roundRatio other den = roundRatio num den := by
  rw [roundRatio_eq_iff positive]
  -- Where the other one is half a step away, so is this one, and the number is even.
  rcases (roundRatio_eq_iff positive).mp (rfl : roundRatio num den = _) with near | ⟨tie, even⟩
  · exact .inl (by omega)
  · rcases Nat.lt_or_eq_of_le closer with less | same
    · exact .inl (by omega)
    · exact .inr ⟨same ▸ tie, even⟩

/-- Rounding does not depend on how a ratio is written. -/
theorem roundRatio_mul_mul {scale : Nat} (positive : 0 < den) (scaled : 0 < scale) :
    roundRatio (num * scale) (den * scale) = roundRatio num den := by
  -- All distances are scaled alike.
  have apart : Nat.dist (num * scale) (roundRatio num den * (den * scale)) =
      Nat.dist num (roundRatio num den * den) * scale := by
    rw [← Nat.mul_assoc, Nat.dist_mul_right]
  rw [roundRatio_eq_iff (Nat.mul_pos positive scaled), apart, ← Nat.mul_assoc]
  rcases (roundRatio_eq_iff positive).mp (rfl : roundRatio num den = _) with near | ⟨tie, even⟩
  · exact .inl (Nat.mul_lt_mul_of_pos_right near scaled)
  · exact .inr ⟨congrArg (· * scale) tie, even⟩

end Spreadsheet.Decimal
