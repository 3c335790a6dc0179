import TenantApi.Decimal.Shortest
import TenantApi.Proofs.Rounding

/-!
Shortest digits read back. A decimal is read as the number that its value rounds to, and the digits
chosen for a number have a value that rounds to it; so has every other way to write that value.
-/

namespace TenantApi.Decimal

def decimal (digits : Nat) (exponent : Int) : ℚ := digits * 10 ^ exponent

section Values
variable {digits other : Nat} {exponent power : Int}

theorem tenTo_positive (n : Nat) : 0 < tenTo n := Nat.pow_pos (by decide)

theorem decimal_exact (digits : Nat) (exponent : Int) :
    ((digits * tenTo exponent.toNat : Nat) / (tenTo (-exponent).toNat : Nat) : ℚ) =
      decimal digits exponent := by
  simp only [decimal, tenTo]
  cases exponent with
  | ofNat n => simp
  | negSucc n =>
      simp only [Int.neg_negSucc, Int.toNat_natCast, Int.toNat_negSucc, Nat.pow_eq, zpow_negSucc]
      push_cast
      field_simp

theorem decimal_shift (digits : Nat) (exponent : Int) (count : Nat) :
    decimal (digits * 10 ^ count) (exponent - count) = decimal digits exponent := by
  have zero : (10 : ℚ) ≠ 0 := by norm_num
  rw [decimal, decimal, zpow_sub₀ zero, zpow_natCast]
  push_cast
  field_simp

theorem decimal_zero (same : decimal digits exponent = decimal 0 power) : digits = 0 := by
  have power : (10 : ℚ) ^ exponent ≠ 0 := by positivity
  simpa [decimal, power] using same

theorem bits_congr (given : 0 < digits) (same : decimal digits exponent = decimal other power) :
    Scientific.bits ⟨digits, exponent⟩ = Scientific.bits ⟨other, power⟩ := by
  rw [← decimal_exact, ← decimal_exact] at same
  exact nearestBits_congr (Nat.mul_pos given (tenTo_positive _)) (tenTo_positive _)
    (tenTo_positive _) same

-- A power of ten lies between the same powers of eight and of sixteen.
theorem ten_above (nonneg : 0 ≤ exponent) : (2 : ℚ) ^ (3 * exponent) ≤ 10 ^ exponent := by
  rw [zpow_mul]
  exact zpow_le_zpow_left₀ nonneg (by norm_num) (by norm_num)

theorem ten_below (negative : exponent ≤ 0) :
    (2 : ℚ) ^ (4 * exponent) ≤ 10 ^ exponent ∧ (10 : ℚ) ^ exponent ≤ 2 ^ (3 * exponent) := by
  obtain ⟨n, rfl⟩ := Int.exists_eq_neg_ofNat negative
  have eight : ((2 : ℚ) ^ 3) ^ n ≤ 10 ^ n := pow_le_pow_left₀ (by norm_num) (by norm_num) n
  have sixteen : (10 : ℚ) ^ n ≤ (2 ^ 4) ^ n := pow_le_pow_left₀ (by norm_num) (by norm_num) n
  rw [zpow_mul, zpow_mul, zpow_neg, zpow_neg, zpow_neg, zpow_natCast, zpow_natCast, zpow_natCast]
  exact ⟨inv_anti₀ (by positivity) sixteen, inv_anti₀ (by positivity) eight⟩

end Values

section Reading
variable {digits other : Nat} {exponent power : Int} {negative : Bool}

theorem magnitude_within (given : 0 < digits)
    (high : decimal digits exponent < 2 ^ (1025 : Int)) :
    (Nat.log2 digits : Int) / 4 + exponent ≤ 400 := by
  have start : (2 : ℚ) ^ (digits.log2 : Int) ≤ digits := by
    rw [zpow_natCast]
    exact mod_cast Nat.log2_self_le given.ne'
  have bound (factor : Int) (under : (2 : ℚ) ^ (factor * exponent) ≤ 10 ^ exponent) :
      (digits.log2 : Int) + factor * exponent < 1025 := by
    rw [← zpow_lt_zpow_iff_right₀ (by norm_num : (1 : ℚ) < 2), zpow_add₀ (by norm_num)]
    exact lt_of_le_of_lt (mul_le_mul start under (by positivity) (by positivity)) high
  rcases le_total 0 exponent with nonneg | negative
  · have small := bound 3 (ten_above nonneg)
    omega
  · have small := bound 4 (ten_below negative).1
    omega

theorem magnitude_visible (low : (2 : ℚ) ^ (-1075 : Int) ≤ decimal digits exponent) :
    -400 ≤ (Nat.log2 digits : Int) + exponent := by
  by_contra small
  have negative : exponent ≤ 0 := by omega
  have bound : (digits : ℚ) < 2 ^ ((digits.log2 : Int) + 1) := by
    rw [← Nat.cast_succ, zpow_natCast]
    exact mod_cast Nat.lt_log2_self
  have less : decimal digits exponent < 2 ^ ((digits.log2 : Int) + 1 + 3 * exponent) := by
    rw [zpow_add₀ (by norm_num), decimal]
    exact mul_lt_mul bound (ten_below negative).2 (by positivity) (by positivity)
  have power := (zpow_lt_zpow_iff_right₀ (by norm_num : (1 : ℚ) < 2)).mp (low.trans_lt less)
  omega

/-- A decimal that rounds to a finite number is read as that, however it is written. -/
theorem ofScientific_bits (given : 0 < digits)
    (same : decimal other power = decimal digits exponent)
    (visible : 0 < Scientific.bits ⟨digits, exponent⟩)
    (finite : Scientific.bits ⟨digits, exponent⟩ < infinityBits) :
    ofScientific negative other power = signed negative (Scientific.bits ⟨digits, exponent⟩) := by
  have top : 0 < digits * tenTo exponent.toNat := Nat.mul_pos given (tenTo_positive _)
  have bottom : 0 < tenTo (-exponent).toNat := tenTo_positive _
  have high := nearestBits_finite top bottom finite
  have low := nearestBits_positive top bottom visible
  rw [decimal_exact, ← same] at high low
  have there : 0 < other := by
    rw [Nat.pos_iff_ne_zero]
    rintro rfl
    exact given.ne' (decimal_zero same.symm)
  have within := magnitude_within there high
  have seen := magnitude_visible low
  have numerator : other * tenTo power.toNat ≠ 0 :=
    (Nat.mul_pos there (tenTo_positive _)).ne'
  rw [ofScientific, if_neg there.ne', if_neg (by omega), if_neg (by omega), nearest,
    if_neg numerator, bits_congr given same.symm]
  rfl

end Reading

section Choosing
variable {bits significand numerator denominator : Nat} {exponent : Int} {found : Scientific}

theorem normalize_value (d : Scientific) :
    decimal d.normalize.digits d.normalize.exponent = decimal d.digits d.exponent ∧
      (0 < d.digits → 0 < d.normalize.digits) := by
  fun_induction Scientific.normalize d with
  | case1 | case3 => exact ⟨rfl, id⟩
  | case2 d given even ih =>
      have tenth : d.digits / 10 * 10 ^ 1 = d.digits := by omega
      have moved := decimal_shift (d.digits / 10) (d.exponent + 1) 1
      rw [tenth] at moved
      refine ⟨ih.1.trans ?_, fun positive => ih.2 (by simp only; omega)⟩
      rw [← moved]
      congr 1
      simp

theorem gridHit_reads (hit : gridHit? bits numerator denominator exponent = some found) :
    found.bits = bits ∧ 0 < found.digits := by
  simp only [gridHit?, Bool.and_eq_true, decide_eq_true_eq] at hit
  split at hit
  case isTrue near =>
    cases hit
    exact ⟨near.2, Nat.pos_iff_ne_zero.mpr near.1⟩
  case isFalse =>
    split at hit
    case isTrue below =>
      cases hit
      exact ⟨below.2, Nat.pos_iff_ne_zero.mpr below.1⟩
    case isFalse =>
      split at hit
      case isTrue above =>
        cases hit
        exact ⟨above, Nat.succ_pos _⟩
      case isFalse => contradiction

-- Every finite number has a decimal of its own value.
theorem exact_value (significand : Nat) (exponent : Int) :
    decimal (significand * twoTo exponent.toNat * Nat.pow 5 (-exponent).toNat) (min exponent 0) =
      significand * 2 ^ exponent := by
  simp only [decimal, twoTo]
  cases exponent with
  | ofNat n => simp
  | negSucc n =>
      have ten : (10 : ℚ) ^ (n + 1) = 2 ^ (n + 1) * 5 ^ (n + 1) := by
        rw [← mul_pow]
        norm_num
      have least : min (Int.negSucc n) 0 = Int.negSucc n := by omega
      simp only [Int.neg_negSucc, Int.toNat_natCast, Int.toNat_negSucc, Nat.pow_eq, zpow_negSucc,
        least, ten]
      push_cast
      field_simp

theorem shortest_reads (normal : IsNormal significand exponent) (given : 0 < significand)
    (same : bits = (exponent + 1074).toNat * twoTo 52 + significand) :
    (shortest bits significand exponent).bits = bits ∧
      0 < (shortest bits significand exponent).digits := by
  simp only [shortest]
  split
  case h_1 found hit =>
    obtain ⟨count, _, hit⟩ := List.exists_of_findSome?_eq_some hit
    obtain ⟨reads, there⟩ := gridHit_reads hit
    obtain ⟨value, kept⟩ := normalize_value found
    exact ⟨(bits_congr (kept there) value).trans reads, kept there⟩
  case h_2 =>
    have there : 0 < significand * twoTo exponent.toNat * Nat.pow 5 (-exponent).toNat :=
      Nat.mul_pos (Nat.mul_pos given (Nat.pow_pos (by decide))) (Nat.pow_pos (by decide))
    refine ⟨?_, there⟩
    rw [same]
    refine nearestBits_normal normal (Nat.mul_pos there (tenTo_positive _)) (tenTo_positive _) ?_
    rw [decimal_exact, exact_value]

end Choosing

section Numbers
variable {x : Float} {negative : Bool} {significand : Nat} {exponent : Int}

theorem signed_bits (x : Float) (negative : Bool)
    (sign : negative = (x.toBits.toNat / twoTo 63 % 2 == 1)) :
    signed negative (x.toBits.toNat % twoTo 63) = x := by
  have whole : (if negative then x.toBits.toNat % twoTo 63 + twoTo 63
      else x.toBits.toNat % twoTo 63) = x.toBits.toNat := by
    have bound := x.toBits.toNat_lt
    simp only [twoTo, Nat.pow_eq, Nat.reducePow] at sign bound ⊢
    subst sign
    split
    case isTrue set =>
      rw [beq_iff_eq] at set
      omega
    case isFalse clear =>
      rw [beq_iff_eq] at clear
      omega
  rw [signed, whole, UInt64.ofNat_toNat, Float.ofBits_toBits]

-- There is one number that is none, and there are two infinite ones.
theorem eq_notANumber (parts : Parts.ofFloat x = .nan) : x = notANumber := by
  have value := Float.Model.UnpackedFloat.isNaN_iff.mp (ofFloat_nan.mp parts)
  have other := Float.Model.UnpackedFloat.isNaN_iff.mp (ofFloat_nan (x := notANumber).mp rfl)
  have same := (Float.Model.UnpackedFloat.unpack_inj_of_valid x.toModel.valid
    notANumber.toModel.valid).mp (value.trans other.symm)
  exact Float.toBits_inj.mp (UInt64.toBitVec_inj.mp same)

theorem eq_infinity (parts : Parts.ofFloat x = .infinite negative) : x = infinity negative := by
  have bits : x.toBits.toNat % twoTo 63 = infinityBits ∧
      negative = (x.toBits.toNat / twoTo 63 % 2 == 1) := by
    simp only [Parts.ofFloat, Parts.ofBits] at parts
    split at parts
    case isTrue largest =>
      split at parts
      case isTrue zero =>
        cases parts
        simp only [infinityBits, twoTo, Nat.pow_eq, Nat.reducePow] at largest zero ⊢
        exact ⟨by omega, trivial⟩
      case isFalse => contradiction
    case isFalse => split at parts <;> contradiction
  rw [infinity, ← bits.1, signed_bits x negative bits.2]

/-- The shortest digits of a finite number, and every other decimal of their value, are read as that
number. -/
theorem shortestDigits_read (parts : Parts.ofFloat x = .finite negative significand exponent) :
    ∃ digits : Nat, ∃ power : Int,
      shortestDigits x significand exponent =
        (Text.natDigits digits, (Text.natDigits digits).length + power) ∧
      (digits = 0 → power = 0) ∧
      ∀ other shift, decimal other shift = decimal digits power →
        ofScientific negative other shift = x := by
  obtain ⟨normal, bits, sign⟩ := parts_normal parts
  by_cases zero : significand = 0
  · subst zero
    refine ⟨0, 0, by rw [shortestDigits, if_pos rfl]; rfl, fun _ => rfl, fun other shift same => ?_⟩
    have least : exponent = -1074 := normal.full.resolve_right (by norm_num)
    rw [decimal_zero same, ofScientific, if_pos rfl, ← signed_bits x negative sign, bits, least]
    rfl
  · have given := Nat.pos_iff_ne_zero.mpr zero
    obtain ⟨reads, there⟩ := shortest_reads normal given bits
    refine ⟨_, _, by rw [shortestDigits, if_neg zero], fun none => absurd none there.ne',
      fun other shift same => ?_⟩
    have visible : 0 < (shortest (x.toBits.toNat % twoTo 63) significand exponent).bits := by
      rw [reads, bits]
      omega
    have finite : (shortest (x.toBits.toNat % twoTo 63) significand exponent).bits <
        infinityBits := by
      rw [reads, bits]
      obtain ⟨_, most, below, _⟩ := normal
      simp only [infinityBits, twoTo, Nat.pow_eq, Nat.reducePow]
      omega
    rw [ofScientific_bits there same visible finite]
    exact (congrArg (signed negative) reads).trans (signed_bits x negative sign)

end Numbers

end TenantApi.Decimal
