import Mathlib
import Spreadsheet.Proofs.Decimal.Nearest

/-! Doubles and the bits that they are made of. -/

namespace Spreadsheet.Decimal.Binary

open Float.Model (Format UnpackedFloat)
open Float.Model.UnpackedFloat (isNaNBits pack_unpack unpackExponent unpackExponent_def
  unpackMantissa unpackMantissa_def)

variable {bits : Nat} {word : UInt64} {number : Float}

/-- The exponent of a word stands between its sign and its fraction. -/
theorem toNat_unpackExponent (word : UInt64) :
    (unpackExponent (show BitVec (Format.numBits .binary64) from word.toBitVec)).toNat =
      word.toNat % signPlace / fractions := by
  rw [unpackExponent_def, BitVec.extractLsb'_toNat]
  show (word.toNat >>> 52) % 2 ^ 11 = word.toNat % 2 ^ 63 / 2 ^ 52
  rw [Nat.shiftRight_eq_div_pow]
  omega

/-- The fraction of a word stands at its end. -/
theorem toNat_unpackMantissa (word : UInt64) :
    (unpackMantissa (show BitVec (Format.numBits .binary64) from word.toBitVec)).toNat =
      word.toNat % signPlace % fractions := by
  rw [unpackMantissa_def, BitVec.extractLsb'_toNat]
  show (word.toNat >>> 0) % 2 ^ 52 = word.toNat % 2 ^ 63 % 2 ^ 52
  rw [Nat.shiftRight_zero]
  omega

/-- The exponent of a word is the greatest one from infinity on. -/
theorem unpackExponent_eq_iff :
    unpackExponent (show BitVec (Format.numBits .binary64) from word.toBitVec) = -1#11 ↔
      infinityBits ≤ word.toNat % signPlace := by
  rw [← BitVec.toNat_inj, toNat_unpackExponent]
  show word.toNat % 2 ^ 63 / 2 ^ 52 = 2047 ↔ 2047 * 2 ^ 52 ≤ word.toNat % 2 ^ 63
  omega

/-- A word has no fraction if its magnitude counts whole exponents. -/
theorem unpackMantissa_eq_iff :
    unpackMantissa (show BitVec (Format.numBits .binary64) from word.toBitVec) = 0#52 ↔
      word.toNat % signPlace % fractions = 0 := by
  rw [← BitVec.toNat_inj, toNat_unpackMantissa]
  rfl

/-- A word is no number if its magnitude is beyond infinity. -/
theorem isNaNBits_iff :
    isNaNBits (show BitVec (Format.numBits .binary64) from word.toBitVec) = true ↔
      infinityBits < word.toNat % signPlace := by
  have less : word.toNat % 2 ^ 63 < 2 ^ 63 := Nat.mod_lt _ (by decide)
  rw [isNaNBits, decide_eq_true_eq]
  refine (and_congr unpackExponent_eq_iff (not_congr unpackMantissa_eq_iff)).trans ?_
  show 2047 * 2 ^ 52 ≤ word.toNat % 2 ^ 63 ∧ ¬ word.toNat % 2 ^ 63 % 2 ^ 52 = 0 ↔
    2047 * 2 ^ 52 < word.toNat % 2 ^ 63
  omega

/-- A double is infinite if its magnitude has the bits of infinity. -/
theorem isInf_iff : number.isInf = true ↔ magnitudeBits number = infinityBits := by
  -- That is how it is unpacked: the greatest exponent and no fraction.
  have unpacked : number.isInf = true ↔
      unpackExponent (show BitVec (Format.numBits .binary64) from number.toBits.toBitVec) =
          -1#11 ∧
        unpackMantissa (show BitVec (Format.numBits .binary64) from number.toBits.toBitVec) =
          0#52 := by
    show (UnpackedFloat.unpack .binary64 number.toBits.toBitVec).isInf = true ↔ _
    unfold UnpackedFloat.unpack UnpackedFloat.isInf
    dsimp only
    split_ifs <;> simp_all
  rw [unpacked, unpackExponent_eq_iff, unpackMantissa_eq_iff]
  have less : number.toBits.toNat % 2 ^ 63 < 2 ^ 63 := Nat.mod_lt _ (by decide)
  show 2047 * 2 ^ 52 ≤ number.toBits.toNat % 2 ^ 63 ∧
    number.toBits.toNat % 2 ^ 63 % 2 ^ 52 = 0 ↔ number.toBits.toNat % 2 ^ 63 = 2047 * 2 ^ 52
  omega

/-- The bits of a number stay as they are in the double that is made of them. -/
theorem toBits_ofBits (finite : word.toNat % signPlace ≤ infinityBits) :
    (Float.ofBits word).toBits = word := by
  have same := @pack_unpack .binary64 word.toBitVec (by decide)
  rw [if_neg (isNaNBits_iff.not.mpr (Nat.not_lt.mpr finite))] at same
  exact UInt64.toBitVec_inj.mp same

/-- A double whose magnitude is below infinity is finite. -/
theorem kind_of_lt (finite : magnitudeBits number < infinityBits) :
    kind number = .finite (isNegative number) (unitsOfBits (magnitudeBits number)) := by
  rw [kind, if_neg (Nat.lt_asymm finite), if_neg (Nat.ne_of_lt finite)]

/-- A double whose magnitude is beyond infinity is no number. -/
theorem kind_of_gt (beyond : infinityBits < magnitudeBits number) : kind number = .nan :=
  if_pos beyond

/-- The double made of a sign and a finite magnitude has these. -/
theorem kind_ofMagnitude (finite : bits < infinityBits) (negative : Bool) :
    kind (ofMagnitude negative bits) = .finite negative (unitsOfBits bits) := by
  have small : bits < signPlace := finite.trans (by decide)
  -- The sign is the place above all magnitudes, and there is no other place in a word.
  have word : (UInt64.ofNat (if negative then bits + signPlace else bits)).toNat =
      if negative then bits + signPlace else bits := by
    refine UInt64.toNat_ofNat_of_lt' (?_ : _ < 2 * signPlace)
    split <;> omega
  have magnitude : (if negative then bits + signPlace else bits) % signPlace = bits := by
    cases negative
    · exact Nat.mod_eq_of_lt small
    · exact (Nat.add_mod_right bits signPlace).trans (Nat.mod_eq_of_lt small)
  have stays : (ofMagnitude negative bits).toBits.toNat =
      if negative then bits + signPlace else bits := by
    rw [ofMagnitude, toBits_ofBits (by rw [word, magnitude]; exact finite.le), word]
  have same : magnitudeBits (ofMagnitude negative bits) = bits := by
    rw [magnitudeBits, stays, magnitude]
  have sign : isNegative (ofMagnitude negative bits) = negative := by
    rw [isNegative, stays]
    cases negative
    · exact decide_eq_false (Nat.not_le.mpr small)
    · exact decide_eq_true (Nat.le_add_left _ _)
  rw [kind_of_lt (by rw [same]; exact finite), same, sign]

/-- The double made of the bits that stand for no number is none. -/
theorem kind_nanBits : kind (ofMagnitude false nanBits) = .nan := by
  decide

end Spreadsheet.Decimal.Binary
