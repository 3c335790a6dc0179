import Mathlib
import TenantApi.Decimal.Binary64

/-!
Where not-a-number comes from. The parts of a number and its unpacked form agree on it, packing and
unpacking neither makes nor loses it, and a sum or difference has it only from an operand that is
not-a-number or from two infinities. What is nearest to a fraction is always a number.
-/

namespace TenantApi.Decimal

open Float.Model (UnpackedFloat Format)
open Float.Model.UnpackedFloat (unpack pack unpackExponent unpackMantissa roundWithAccuracy)

section Packing
variable (word : BitVec Format.binary64.numBits) (bits : UInt64)

theorem unpack_nan :
    (unpack Format.binary64 word).isNaN = true ↔
      unpackExponent word = -1#11 ∧ unpackMantissa word ≠ 0#52 := by
  have status (p q : Prop) [Decidable p] [Decidable q] (a b : UnpackedFloat) (no : a.isNaN = false)
      (never : b.isNaN = false) :
      (if p then (if q then a else .notANumber) else b).isNaN = true ↔ p ∧ ¬q := by
    by_cases first : p
    · by_cases second : q
      · simp only [first, second, ↓reduceIte, no]
        simp
      · simp [first, second, UnpackedFloat.isNaN]
    · simp [first, never]
  simp only [unpack]
  apply status
  · rfl
  · split
    · split <;> rfl
    · rfl

theorem exponent_field :
    (@unpackExponent Format.binary64 bits.toBitVec).toNat =
      bits.toNat / twoTo 52 % twoTo 11 := by
  simp [unpackExponent, twoTo, Nat.shiftRight_eq_div_pow]

theorem mantissa_field :
    (@unpackMantissa Format.binary64 bits.toBitVec).toNat = bits.toNat % twoTo 52 := by
  simp [unpackMantissa, twoTo, Nat.shiftRight_eq_div_pow]

theorem ofBits_nan (n : Nat) :
    Parts.ofBits n = .nan ↔ n / twoTo 52 % twoTo 11 = 2047 ∧ n % twoTo 52 ≠ 0 := by
  simp only [Parts.ofBits]
  split
  · split <;> simp_all
  · split <;> simp_all

theorem parts_nan :
    Parts.ofBits bits.toNat = .nan ↔ (unpack Format.binary64 bits.toBitVec).isNaN = true := by
  rw [unpack_nan, ← BitVec.toNat_inj, ne_eq, ← BitVec.toNat_inj, exponent_field, mantissa_field,
    ofBits_nan]
  simp

theorem parts_finite {negative : Bool} {significand : Nat} {exponent : Int}
    (parts : Parts.ofBits bits.toNat = .finite negative significand exponent) :
    (unpack Format.binary64 bits.toBitVec).isFinite = true := by
  have plain : @unpackExponent Format.binary64 bits.toBitVec ≠ -1#11 := by
    rw [ne_eq, ← BitVec.toNat_inj, exponent_field]
    intro special
    simp only [Parts.ofBits] at parts
    rw [if_pos (by simpa using special)] at parts
    split at parts <;> contradiction
  simp only [unpack]
  rw [if_neg plain]
  split
  · split <;> rfl
  · rfl

theorem pack_nan (value : UnpackedFloat) :
    (unpack Format.binary64 (pack Format.binary64 value)).isNaN = value.isNaN := by
  rw [Bool.eq_iff_iff, unpack_nan]
  fun_cases pack Format.binary64 value with
  | case1 => simp [UnpackedFloat.isNaN, UnpackedFloat.packedNaN]
  | case2 sign => simp [UnpackedFloat.isNaN, UnpackedFloat.packedInfinity]
  | case3 sign => simp [UnpackedFloat.isNaN, UnpackedFloat.packedZero]
  | case4 => simp [UnpackedFloat.isNaN, UnpackedFloat.packedInfinity]
  | case5 sign mantissa exponent positive bits biased small normal =>
      -- The exponent field of a normal number stays below the one that is set aside.
      change ¬2 ^ 11 ≤ biased + 1 at small
      have below : biased % 2048 ≠ 2047 := by omega
      simp [UnpackedFloat.isNaN, ← BitVec.toNat_inj, below]
  | case6 => simp [UnpackedFloat.isNaN]

end Packing

section Arithmetic
variable {left right : UnpackedFloat}

theorem round_number (sign : UnpackedFloat.Sign) (mantissa : Nat) (exponent : Int)
    (accuracy : UnpackedFloat.Accuracy) :
    (roundWithAccuracy Format.binary64 sign mantissa exponent accuracy).isNaN = false := by
  simp only [roundWithAccuracy]
  split <;> rfl

theorem normalize_number (mantissa exponent : Int) (sign : UnpackedFloat.Sign) :
    (UnpackedFloat.normalize Format.binary64 mantissa exponent sign).isNaN = false := by
  simp only [UnpackedFloat.normalize, UnpackedFloat.round]
  split
  · exact round_number ..
  · rfl
  · exact round_number ..

theorem unpacked_add_number (finite : left.isFinite = true) (number : right.isNaN = false) :
    (UnpackedFloat.add Format.binary64 left right).isNaN = false := by
  cases left <;> cases right <;> try contradiction
  case zero.zero => simp only [UnpackedFloat.add]; split <;> rfl
  case finite.finite => exact normalize_number ..
  all_goals rfl

theorem unpacked_sub_number (finite : left.isFinite = true) (number : right.isNaN = false) :
    (UnpackedFloat.sub Format.binary64 left right).isNaN = false := by
  cases left <;> cases right <;> try contradiction
  case zero.zero => simp only [UnpackedFloat.sub]; split <;> rfl
  case finite.finite => exact normalize_number ..
  all_goals rfl

end Arithmetic

section Numbers
variable {x y : Float}

theorem ofFloat_nan : Parts.ofFloat x = .nan ↔ x.toModel.unpack.isNaN = true :=
  parts_nan x.toBits

theorem packed_nan (value : UnpackedFloat) :
    Parts.ofFloat (.ofModel (.pack value)) = .nan ↔ value.isNaN = true := by
  rw [ofFloat_nan, ← pack_nan value]
  rfl

theorem finite_unpacked (finite : isFinite x = true) : x.toModel.unpack.isFinite = true := by
  simp only [isFinite] at finite
  split at finite
  case h_1 negative significand exponent parts => exact parts_finite x.toBits parts
  case h_2 => contradiction

theorem add_number (finite : isFinite x = true) (number : Parts.ofFloat y ≠ .nan) :
    Parts.ofFloat (x + y) ≠ .nan := by
  rw [ne_eq, ofFloat_nan, Bool.not_eq_true] at number
  have sum := unpacked_add_number (finite_unpacked finite) number
  intro nan
  have made := (packed_nan _).mp nan
  rw [sum] at made
  contradiction

theorem sub_number (finite : isFinite x = true) (number : Parts.ofFloat y ≠ .nan) :
    Parts.ofFloat (x - y) ≠ .nan := by
  rw [ne_eq, ofFloat_nan, Bool.not_eq_true] at number
  have difference := unpacked_sub_number (finite_unpacked finite) number
  intro nan
  have made := (packed_nan _).mp nan
  rw [difference] at made
  contradiction

-- Magnitudes up to infinity.
theorem signed_number (negative : Bool) (bits : Nat) (bound : bits ≤ infinityBits) :
    Parts.ofFloat (signed negative bits) ≠ .nan := by
  simp only [infinityBits, twoTo, Nat.pow_eq, Nat.reducePow, Nat.reduceMul] at bound
  rw [signed, Float.ofBits, Float.Model.ofBits, ne_eq, packed_nan, ← parts_nan]
  rw [ofBits_nan]
  simp only [twoTo, Nat.pow_eq, Nat.reducePow, UInt64.toNat_ofNat']
  rintro ⟨special, fraction⟩
  cases negative with
  | true =>
      simp only [↓reduceIte] at special fraction
      omega
  | false =>
      simp only [Bool.false_eq_true, ↓reduceIte] at special fraction
      omega

theorem nearest_number (negative : Bool) (numerator denominator : Nat) :
    Parts.ofFloat (nearest negative numerator denominator) ≠ .nan := by
  rw [nearest]
  apply signed_number
  split
  · exact Nat.zero_le _
  · exact Nat.min_le_left _ _

theorem ofInt_number (n : Int) : Parts.ofFloat (ofInt n) ≠ .nan := nearest_number _ _ _

theorem nearestSum_number (a b : Bool) (m n : Nat) (e f : Int) :
    Parts.ofFloat (nearestSum a m e b n f) ≠ .nan := by
  simp only [nearestSum]
  split
  · exact signed_number _ _ (Nat.zero_le _)
  · exact nearest_number _ _ _

theorem sum_number (finite : isFinite x = true) (number : Parts.ofFloat y ≠ .nan) :
    Parts.ofFloat (sum x y) ≠ .nan := by
  unfold sum
  split
  · exact nearestSum_number _ _ _ _ _ _
  · exact add_number finite number

theorem difference_number (finite : isFinite x = true) (number : Parts.ofFloat y ≠ .nan) :
    Parts.ofFloat (difference x y) ≠ .nan := by
  unfold difference
  split
  · exact nearestSum_number _ _ _ _ _ _
  · exact sub_number finite number

end Numbers

end TenantApi.Decimal
