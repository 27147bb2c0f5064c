import Mathlib
import Spreadsheet.Proofs.Decimal.Double

/-! The exact value of a double, a rational number. -/

namespace Spreadsheet.Decimal.Binary

open Float.Model (Format UnpackedFloat)
open Float.Model.UnpackedFloat (Sign unpackExponent unpackMantissa unpackSign unpackSign_def)

variable {word : UInt64} {number : Float}

/-- A magnitude with a sign. -/
def signed (negative : Bool) (magnitude : ℚ) : ℚ :=
  if negative then -magnitude else magnitude

/-- The value of an unpacked double, its signed mantissa times its power of two; what is not finite
is given the value nought. -/
def unpackedValue : UnpackedFloat → ℚ
  | .finite sign mantissa exponent _ => (sign.apply mantissa : ℤ) * 2 ^ exponent
  | _ => 0

/-- The exact value of a finite double. -/
def exactValue (number : Float) : ℚ :=
  unpackedValue number.toModel.unpack

/-- Nought has no sign. -/
theorem signed_zero (negative : Bool) : signed negative 0 = 0 := by
  cases negative <;> simp [signed]

/-- The sign of a word is its first bit. -/
theorem ofBitVec_unpackSign (word : UInt64) :
    Sign.ofBitVec (unpackSign (show BitVec (Format.numBits .binary64) from word.toBitVec)) =
      if signPlace ≤ word.toNat then .negative else .positive := by
  have first : unpackSign (show BitVec (Format.numBits .binary64) from word.toBitVec) = 0#1 ↔
      ¬ signPlace ≤ word.toNat := by
    rw [unpackSign_def, ← BitVec.toNat_inj, BitVec.extractLsb'_toNat]
    show (word.toNat >>> 63) % 2 ^ 1 = 0 ↔ ¬ 2 ^ 63 ≤ word.toNat
    have less : word.toNat < 2 ^ 64 := word.toNat_lt
    rw [Nat.shiftRight_eq_div_pow]
    omega
  unfold Sign.ofBitVec
  simp only [first]
  split_ifs <;> rfl

/-- A double is finite if its magnitude is below that of infinity. -/
theorem isFinite_iff : number.isFinite = true ↔ magnitudeBits number < infinityBits := by
  -- Every exponent but the greatest is that of a finite double.
  have greatest : unpackExponent
      (show BitVec (Format.numBits .binary64) from number.toBits.toBitVec) = -1#11 ↔
      infinityBits ≤ magnitudeBits number := unpackExponent_eq_iff
  rw [← Nat.not_le, ← greatest]
  show (UnpackedFloat.unpack .binary64 number.toBits.toBitVec).isFinite = true ↔ _
  unfold UnpackedFloat.unpack UnpackedFloat.isFinite
  dsimp only
  split_ifs <;> simp_all

/-- A power of two is the same among the rational numbers. -/
theorem cast_twoTo (exponent : Nat) : (twoTo exponent : ℚ) = 2 ^ exponent :=
  Nat.cast_pow 2 exponent

/-- A finite mantissa with the sign of a double counts units by its power of two. -/
theorem unpackedValue_finite {mantissa spacing : Nat} {exponent : ℤ} (positive : 0 < mantissa)
    (scale : exponent = spacing - 1074) :
    unpackedValue (.finite (Sign.ofBitVec
      (unpackSign (show BitVec (Format.numBits .binary64) from number.toBits.toBitVec)))
        mantissa exponent positive) =
      signed (isNegative number) ((mantissa * twoTo spacing : ℕ) / unitsPerOne) := by
  have power : (2 : ℚ) ^ exponent = twoTo spacing / unitsPerOne := by
    rw [scale, zpow_sub₀ two_ne_zero, unitsPerOne, cast_twoTo, cast_twoTo, zpow_natCast]
    norm_cast
  rw [ofBitVec_unpackSign, unpackedValue, power, isNegative, signed, Nat.cast_mul]
  generalize (unitsPerOne : ℚ) = units
  by_cases negative : signPlace ≤ number.toBits.toNat
  · simp [negative, Sign.apply, mul_div_assoc]
  · simp [negative, Sign.apply, mul_div_assoc]

/-- The exact value of a finite double is its units, with its sign. -/
theorem exactValue_eq (finite : number.isFinite = true) : exactValue number =
    signed (isNegative number) (unitsOfBits (magnitudeBits number) / unitsPerOne) := by
  have inside := isFinite_iff.mp finite
  have exponent := toNat_unpackExponent number.toBits
  have mantissa := toNat_unpackMantissa number.toBits
  change _ = magnitudeBits number / fractions at exponent
  change _ = magnitudeBits number % fractions at mantissa
  show unpackedValue (UnpackedFloat.unpack .binary64 number.toBits.toBitVec) = _
  unfold UnpackedFloat.unpack
  dsimp only
  rw [if_neg (unpackExponent_eq_iff.not.mpr (Nat.not_le.mpr inside))]
  split
  case isTrue least =>
    -- There is no hidden bit, and the spacing is the least.
    rw [least] at exponent
    have units : unitsOfBits (magnitudeBits number) = magnitudeBits number % fractions := by
      rw [unitsOfBits, ← exponent]
      rfl
    split
    case isTrue none =>
      rw [none] at mantissa
      rw [units, ← mantissa]
      show (0 : ℚ) = signed _ ((0 : ℕ) / unitsPerOne)
      rw [Nat.cast_zero, zero_div, signed_zero]
    case isFalse some =>
      have one : twoTo 0 = 1 := rfl
      rw [unpackedValue_finite _ (by rw [least]; rfl : _ = ((0 : ℕ) : ℤ) - 1074), units, ← mantissa,
        one, Nat.mul_one]
  case isFalse greater =>
    -- The exponent is not nought, and one more than that of the spacing.
    have nonzero : magnitudeBits number / fractions ≠ 0 := by
      rw [← exponent]
      exact fun zero => greater (BitVec.toNat_inj.mp zero)
    obtain ⟨spacing, next⟩ := Nat.exists_eq_succ_of_ne_zero nonzero
    have units : unitsOfBits (magnitudeBits number) =
        (magnitudeBits number % fractions + fractions) * twoTo spacing := by
      rw [unitsOfBits, next]
      rfl
    have hidden : (1#1 ++ unpackMantissa
        (show BitVec (Format.numBits .binary64) from number.toBits.toBitVec)).toNat =
          magnitudeBits number % fractions + fractions := by
      have less : magnitudeBits number % fractions < 2 ^ 52 := Nat.mod_lt _ fractions_pos
      rw [BitVec.toNat_append, mantissa, ← Nat.shiftLeft_add_eq_or_of_lt less, Nat.add_comm]
      rfl
    have scale : ((magnitudeBits number / fractions : ℕ) : ℤ) - 1075 = (spacing : ℤ) - 1074 := by
      omega
    rw [← exponent] at scale
    refine (unpackedValue_finite _ scale).trans ?_
    rw [hidden, units]

end Spreadsheet.Decimal.Binary
