import Spreadsheet.Proofs.Address
import Spreadsheet.Proofs.Decimal.Exact
import Spreadsheet.Proofs.Number

/-! A number is shown as the nearest decimal with six places, written in the shortest way. -/

namespace Spreadsheet

namespace Decimal

/-- A ratio is at most a half away from where it is rounded to. -/
theorem abs_roundRatio_sub_le (num : Nat) {den : Nat} (positive : 0 < den) :
    |(roundRatio num den : ℚ) - num / den| ≤ 1 / 2 := by
  have half := dist_roundRatio_le num positive
  unfold Nat.dist at half
  have above : roundRatio num den * den * 2 ≤ den + num * 2 := by omega
  have below : num * 2 ≤ den + roundRatio num den * den * 2 := by omega
  have aboveToo : (roundRatio num den : ℚ) * den * 2 ≤ den + num * 2 := mod_cast above
  have belowToo : (num : ℚ) * 2 ≤ den + roundRatio num den * den * 2 := mod_cast below
  have positiveToo : (0 : ℚ) < den := mod_cast positive
  rw [sub_div' positiveToo.ne', abs_le, div_le_iff₀ positiveToo, le_div_iff₀ positiveToo]
  constructor <;> linarith

/-- Where places are left behind trimming, the last of them is no zero. -/
theorem places_trimPlaces (places digits : Nat) :
    (trimPlaces places digits).places = 0 ∨ (trimPlaces places digits).digits % 10 ≠ 0 := by
  induction places generalizing digits with
  | zero => exact .inl rfl
  | succ places ih =>
    unfold trimPlaces
    split
    · exact ih (digits / 10)
    · rename_i nonzero
      exact .inr nonzero

/-- The last of some digits is that of the number. -/
theorem getLast?_lastDigits (count digits : Nat) :
    (lastDigits (count + 1) digits).getLast? = some (Nat.digitChar (digits % 10)) := by
  rw [lastDigits, List.getLast?_concat]

/-- A digit other than nought is not written as a zero. -/
theorem digitChar_ne_zero {digit : Nat} (small : digit < 10) (nonzero : digit ≠ 0) :
    Nat.digitChar digit ≠ '0' := by
  intro zero
  have same := congrArg Char.toNat zero
  rw [Nat.toNat_digitChar_of_lt_ten small] at same
  exact nonzero (by simpa using same)

end Decimal

namespace Number

open Decimal (lastDigits tenTo trimPlaces)
open Decimal.Binary

variable {number : Float}

/-- A written decimal: a whole part without superfluous zeros in front, at most six places of which
the last is no zero, and perhaps a minus sign. -/
structure Written where
  negative : Bool
  whole : List Char
  fraction : List Char
  nonempty : whole ≠ []
  numeric : ∀ char ∈ whole ++ fraction, char.isDigit = true
  unpadded : whole.head? = some '0' → whole = ['0']
  few : fraction.length ≤ 6
  trimmed : fraction.getLast? ≠ some '0'

namespace Written

/-- The text of a written decimal, with a point only where places follow it. -/
def text (written : Written) : String :=
  let sign := if written.negative then ['-'] else []
  let point := if written.fraction = [] then [] else ['.']
  String.ofList (sign ++ written.whole ++ point ++ written.fraction)

/-- The number that a written decimal stands for. -/
def value (written : Written) : ℚ :=
  signed written.negative
    (Nat.ofDigitChars 10 (written.whole ++ written.fraction) 0 / 10 ^ written.fraction.length)

/-- A trimmed decimal as it is written; nought is written without a sign. -/
def ofTrimmed (negative : Bool) (decimal : Decimal) (few : decimal.places ≤ 6)
    (trimmed : decimal.places = 0 ∨ decimal.digits % 10 ≠ 0) : Written where
  negative := negative && decimal.digits != 0
  whole := Nat.toDigits 10 (decimal.digits / tenTo decimal.places)
  fraction := lastDigits decimal.places decimal.digits
  nonempty := Nat.toDigits_ne_nil
  numeric := by
    intro char member
    rcases List.mem_append.mp member with whole | place
    · exact Nat.isDigit_of_mem_toDigits (by decide) (by decide) whole
    · exact Decimal.isDigit_lastDigits _ _ char place
  unpadded := by
    intro zero
    -- Only nought is written with a zero first.
    rcases Nat.eq_zero_or_pos (decimal.digits / tenTo decimal.places) with none | positive
    · rw [none, Nat.toDigits_zero]
    · exact absurd zero (Address.head?_toDigits_ne positive)
  few := by
    rw [Decimal.length_lastDigits]
    exact few
  trimmed := by
    cases places : decimal.places with
    | zero => exact fun zero => nomatch zero
    | succ count =>
      rw [Decimal.getLast?_lastDigits]
      have nonzero := trimmed.resolve_left (by rw [places]; exact Nat.succ_ne_zero count)
      exact fun zero => Decimal.digitChar_ne_zero (Nat.mod_lt _ (by decide)) nonzero
        (Option.some.inj zero)

variable {negative : Bool} {decimal : Decimal} {few : decimal.places ≤ 6}
  {trimmed : decimal.places = 0 ∨ decimal.digits % 10 ≠ 0}

/-- A decimal is written as it is shown. -/
theorem text_ofTrimmed : (ofTrimmed negative decimal few trimmed).text =
    String.ofList (charsOf negative decimal) := by
  obtain ⟨digits, places⟩ := decimal
  have point : lastDigits places digits = [] ↔ places = 0 := by
    rw [← List.length_eq_zero_iff, Decimal.length_lastDigits]
  unfold text ofTrimmed charsOf Decimal.chars
  dsimp only
  simp only [point]
  -- Without places there is neither a point nor a digit behind it.
  by_cases whole : places = 0
  · subst whole
    split_ifs <;> simp [lastDigits]
  · split_ifs <;> simp

/-- A written decimal stands for its digits over its places, with its sign. -/
theorem value_ofTrimmed : (ofTrimmed negative decimal few trimmed).value =
    signed negative (decimal.digits / 10 ^ decimal.places) := by
  unfold value ofTrimmed
  dsimp only
  rw [Decimal.ofDigitChars_lastDigits, Decimal.length_lastDigits]
  by_cases zero : decimal.digits = 0
  · rw [zero, Nat.cast_zero, zero_div, signed_zero, signed_zero]
  · have shown : (negative && decimal.digits != 0) = negative := by simp [zero]
    rw [shown]

/-- A decimal with a sign is not nought. -/
theorem value_ne_zero (sign : (ofTrimmed negative decimal few trimmed).negative = true) :
    (ofTrimmed negative decimal few trimmed).value ≠ 0 := by
  obtain ⟨rfl, nonzero⟩ : negative = true ∧ decimal.digits ≠ 0 := by
    simpa [ofTrimmed] using sign
  rw [value_ofTrimmed, signed, if_pos rfl, neg_ne_zero]
  positivity

end Written

section Rounding

/-- Signs do not change how far apart magnitudes are. -/
theorem abs_signed_sub (negative : Bool) (left right : ℚ) :
    |signed negative left - signed negative right| = |left - right| := by
  cases negative
  · rfl
  · show |-left - -right| = _
    rw [neg_sub_neg, abs_sub_comm]

/-- The steps shown of some units are at most half a step away from them. -/
theorem abs_stepsShown_sub_le (units : Nat) :
    |(stepsShown units / 10 ^ 6 : ℚ) - units / unitsPerOne| ≤ 5 / 10 ^ 7 := by
  -- A step is a millionth of one.
  have half := Decimal.abs_roundRatio_sub_le (units * tenTo places) unitsPerOne_pos
  have scale : ((units * tenTo places : ℕ) : ℚ) = units * 10 ^ 6 := by
    rw [Nat.cast_mul]
    exact congrArg _ (Nat.cast_pow 10 6)
  have apart : (stepsShown units / 10 ^ 6 : ℚ) - units / unitsPerOne =
      (stepsShown units - units * 10 ^ 6 / unitsPerOne) / 10 ^ 6 := by
    ring
  rw [scale] at half
  rw [apart, abs_div, abs_of_pos (by positivity : (0 : ℚ) < 10 ^ 6), div_le_iff₀ (by positivity)]
  exact half.trans (by norm_num)

/-- The decimal that is shown of some units stands for their steps. -/
theorem rounded_div (units : Nat) :
    ((rounded units).digits / 10 ^ (rounded units).places : ℚ) = stepsShown units / 10 ^ 6 := by
  obtain ⟨dropped, fewer, same⟩ := Decimal.exists_dropped places (stepsShown units)
  rw [← rounded_eq] at fewer same
  have scale : (10 : ℚ) ^ 6 = 10 ^ (rounded units).places * 10 ^ dropped := by
    rw [← pow_add, ← fewer]
    rfl
  have steps : (stepsShown units : ℚ) = (rounded units).digits * 10 ^ dropped := by
    rw [same, Nat.cast_mul]
    exact congrArg _ (Nat.cast_pow 10 dropped)
  rw [steps, scale, mul_div_mul_right _ _ (by positivity)]

/-- Decimals with six places that are half a unit of the last place apart are the same. -/
theorem eq_of_abs_sub_le {left right : ℤ}
    (near : |(left / 10 ^ 6 : ℚ) - right / 10 ^ 6| ≤ 5 / 10 ^ 7) : left = right := by
  rw [← sub_div, abs_div, abs_of_pos (by positivity : (0 : ℚ) < 10 ^ 6),
    div_le_iff₀ (by positivity)] at near
  have less : |(left : ℚ) - right| < 1 := near.trans_lt (by norm_num)
  rw [← Int.cast_sub, ← Int.cast_abs] at less
  have none : |left - right| < 1 := mod_cast less
  exact sub_eq_zero.mp (Int.abs_lt_one_iff.mp none)

end Rounding

/-- A finite number is shown as a decimal with at most six places and none to spare, with a minus
sign only where it is not nought. The decimal is at most half a unit of the sixth place away from
the exact value of the number, and so it is that value if this has no more than six places. -/
theorem text_nearest (number : Float) (finite : number.isFinite = true) :
    ∃ written : Written, text number = written.text ∧
      (written.negative = true → written.value ≠ 0) ∧
      (∃ steps : ℤ, written.value = steps / 10 ^ 6) ∧
      |written.value - exactValue number| ≤ 5 / 10 ^ 7 ∧
      ((∃ steps : ℤ, exactValue number = steps / 10 ^ 6) →
        written.value = exactValue number) := by
  have exact := exactValue_eq finite
  have shown := text_of_finite (kind_of_lt (isFinite_iff.mp finite))
  generalize isNegative number = negative at exact shown
  generalize unitsOfBits (magnitudeBits number) = units at exact shown
  -- The zeros that are trimmed off leave the value, and no more places than were rounded to.
  have few : (rounded units).places ≤ 6 := by
    obtain ⟨dropped, fewer, _⟩ := Decimal.exists_dropped places (stepsShown units)
    rw [← rounded_eq] at fewer
    exact (Nat.le_add_right _ dropped).trans_eq fewer.symm
  have trimmed := Decimal.places_trimPlaces places (stepsShown units)
  rw [← rounded_eq] at trimmed
  have value : (Written.ofTrimmed negative (rounded units) few trimmed).value =
      signed negative (stepsShown units / 10 ^ 6) := by
    rw [Written.value_ofTrimmed, rounded_div]
  have near : |(Written.ofTrimmed negative (rounded units) few trimmed).value -
      exactValue number| ≤ 5 / 10 ^ 7 := by
    rw [value, exact, abs_signed_sub]
    exact abs_stepsShown_sub_le units
  have whole : ∃ steps : ℤ, (Written.ofTrimmed negative (rounded units) few trimmed).value =
      steps / 10 ^ 6 := by
    rw [value]
    cases negative
    · exact ⟨stepsShown units, rfl⟩
    · exact ⟨-stepsShown units, by push_cast; exact (neg_div _ _).symm⟩
  refine ⟨_, shown.trans Written.text_ofTrimmed.symm, Written.value_ne_zero, whole, near,
    fun sixth => ?_⟩
  -- Two decimals of six places that are so near to each other are the same.
  obtain ⟨steps, written⟩ := whole
  obtain ⟨others, same⟩ := sixth
  rw [written, same] at near ⊢
  rw [eq_of_abs_sub_le near]

/-- A number just below one, whose six places are all carried away. -/
theorem text_nearest_carried : (Float.ofBits 0x3fefffff29406b2a).isFinite = true ∧
    ∃ written : Written, text (Float.ofBits 0x3fefffff29406b2a) = written.text ∧
      (written.negative = true → written.value ≠ 0) ∧
      (∃ steps : ℤ, written.value = steps / 10 ^ 6) ∧
      |written.value - exactValue (Float.ofBits 0x3fefffff29406b2a)| ≤ 5 / 10 ^ 7 ∧
      ((∃ steps : ℤ, exactValue (Float.ofBits 0x3fefffff29406b2a) = steps / 10 ^ 6) →
        written.value = exactValue (Float.ofBits 0x3fefffff29406b2a)) := by
  have finite : (Float.ofBits 0x3fefffff29406b2a).isFinite = true := by decide
  exact ⟨finite, text_nearest _ finite⟩

end Number

end Spreadsheet
