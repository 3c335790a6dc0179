import TenantApi.Proofs.Shortest

/-!
Floats that are whole. The format holds every integer of a magnitude up to `2 ^ 53`, so within that
bound a clock that counts in floats is moved by integers without loss.
-/

namespace TenantApi

namespace Decimal

section Bits
variable {bits significand : Nat} {exponent : Int}

theorem toBits_ofBits {word : UInt64} (number : Parts.ofBits word.toNat ≠ .nan) :
    (Float.ofBits word).toBits = word := by
  rw [ne_eq, parts_nan, unpack_nan] at number
  apply UInt64.toBitVec_inj.mp
  exact Float.Model.UnpackedFloat.pack_unpack_of_valid ⟨fun exponent mantissa =>
    absurd ⟨exponent, mantissa⟩ number⟩

-- The three fields of the bits, and then the parts that are read off them.
theorem IsNormal.ofBits (normal : IsNormal significand exponent)
    (same : bits = (exponent + 1074).toNat * twoTo 52 + significand) (negative : Bool) :
    Parts.ofBits (if negative then bits + twoTo 63 else bits) =
      .finite negative significand exponent := by
  obtain ⟨least, most, below, full⟩ := normal
  have limit : twoTo 52 = 4503599627370496 := rfl
  have sign : (if negative then bits + twoTo 63 else bits) / twoTo 63 % 2 = negative.toNat := by
    simp only [twoTo, Nat.pow_eq, Nat.reducePow] at same ⊢
    cases negative <;> simp <;> omega
  have biased : (if negative then bits + twoTo 63 else bits) / twoTo 52 % twoTo 11 =
      (exponent + 1074).toNat + significand / twoTo 52 := by
    simp only [twoTo, Nat.pow_eq, Nat.reducePow] at same ⊢
    cases negative <;> simp <;> omega
  have fraction : (if negative then bits + twoTo 63 else bits) % twoTo 52 =
      significand % twoTo 52 := by
    simp only [twoTo, Nat.pow_eq, Nat.reducePow] at same ⊢
    cases negative
    · simp
      omega
    · simp
      omega
  have kept : (negative.toNat == 1) = negative := by cases negative <;> rfl
  simp only [Parts.ofBits, sign, biased, fraction, kept]
  rw [limit]
  split
  case isTrue special => omega
  case isFalse =>
    split
    case isTrue zero =>
      have unit : exponent = -1074 := by omega
      rw [unit, Nat.mod_eq_of_lt (by omega)]
    case isFalse =>
      rw [Parts.finite.injEq]
      exact ⟨rfl, by omega, by omega⟩

theorem IsNormal.signed (normal : IsNormal significand exponent)
    (same : bits = (exponent + 1074).toNat * twoTo 52 + significand) (negative : Bool) :
    Parts.ofFloat (signed negative bits) = .finite negative significand exponent := by
  have parts := normal.ofBits same negative
  have word : (UInt64.ofNat (if negative then bits + twoTo 63 else bits)).toNat =
      if negative then bits + twoTo 63 else bits := by
    obtain ⟨least, most, below, full⟩ := normal
    simp only [twoTo, Nat.pow_eq, Nat.reducePow, UInt64.toNat_ofNat'] at same ⊢
    cases negative <;> simp <;> omega
  rw [Decimal.signed, Parts.ofFloat, toBits_ofBits (by simp [word, parts]), word, parts]

end Bits

section Whole
variable {n numerator denominator : Nat} {x y : Float} {p q : Int}

theorem whole_normal (within : n ≤ 2 ^ 53) :
    ∃ significand exponent, IsNormal significand exponent ∧
      (significand * 2 ^ exponent : ℚ) = n := by
  rcases Nat.eq_zero_or_pos n with rfl | given
  · exact ⟨0, -1074, ⟨le_rfl, by decide, by decide, .inl rfl⟩, by simp⟩
  rcases within.lt_or_eq with less | rfl
  · -- As many zeros are put behind the number as leave it 53 digits.
    have digits : n.log2 < 53 := (Nat.log2_lt given.ne').mpr less
    have fill : 2 ^ n.log2 * 2 ^ (52 - n.log2) = 2 ^ 52 := by
      rw [← Nat.pow_add, Nat.add_sub_cancel' (by omega)]
    have low : 2 ^ n.log2 ≤ n := Nat.log2_self_le given.ne'
    have high : n < 2 ^ n.log2 * 2 := by
      rw [← Nat.pow_succ]
      exact Nat.lt_log2_self
    refine ⟨n * 2 ^ (52 - n.log2), -(52 - n.log2 : Nat), ⟨by omega, by omega, ?_, .inr ?_⟩, ?_⟩
    · calc n * 2 ^ (52 - n.log2) < 2 ^ n.log2 * 2 * 2 ^ (52 - n.log2) := by gcongr
        _ = 2 ^ n.log2 * 2 ^ (52 - n.log2) * 2 := Nat.mul_right_comm ..
        _ = 2 ^ 53 := by rw [fill]; rfl
    · rw [← fill]
      gcongr
    · rw [zpow_neg, zpow_natCast]
      push_cast
      field_simp
  · exact ⟨2 ^ 52, 1, ⟨by decide, by decide, by decide, .inr le_rfl⟩, by norm_num⟩

def IsWhole (x : Float) (n : Int) : Prop :=
  ∃ negative significand exponent, Parts.ofFloat x = .finite negative significand exponent ∧
    rational negative significand exponent = n

theorem IsWhole.position (whole : IsWhole x p) :
    (Parts.ofFloat x).position? = some (Position.ofInt p) := by
  obtain ⟨negative, significand, exponent, parts, value⟩ := whole
  rw [parts, Parts.position?, value]
  rfl

theorem zero_whole (negative : Bool) : IsWhole (signed negative 0) 0 := by
  have normal : IsNormal 0 (-1074) := ⟨le_rfl, by norm_num, by norm_num, .inl rfl⟩
  exact ⟨negative, 0, -1074, normal.signed (by simp) negative, by simp [rational]⟩

theorem nearest_whole (negative : Bool) (within : n ≤ 2 ^ 53) (positive : 0 < denominator) :
    IsWhole (nearest negative (n * denominator) denominator) (applySign negative n) := by
  rcases Nat.eq_zero_or_pos n with rfl | given
  · have zero : applySign negative 0 = 0 := by cases negative <;> rfl
    rw [nearest, Nat.zero_mul, if_pos rfl, zero]
    exact zero_whole negative
  obtain ⟨significand, exponent, normal, value⟩ := whole_normal within
  refine ⟨negative, significand, exponent, ?_, ?_⟩
  · have there : 0 < n * denominator := Nat.mul_pos given positive
    have whole : (denominator : ℚ) ≠ 0 := (Nat.cast_pos.mpr positive).ne'
    rw [nearest, if_neg there.ne']
    apply normal.signed
    apply nearestBits_normal normal there positive
    rw [value]
    push_cast
    field_simp
  · rw [rational, mul_assoc, value]
    cases negative <;> simp [applySign]

theorem applySign_natAbs (n : Int) : applySign (n < 0) n.natAbs = n := by
  simp only [applySign, decide_eq_true_eq]
  split <;> omega

theorem ofInt_whole (within : p.natAbs ≤ 2 ^ 53) : IsWhole (ofInt p) p := by
  have whole := nearest_whole (p < 0) within Nat.one_pos
  rwa [applySign_natAbs, Nat.mul_one] at whole

section Sums
variable {a b : Bool} {m k : Nat} {e f : Int}

theorem rational_scaled (value : rational a m e = p) :
    applySign a (fraction m e).1 = p * (fraction m e).2 := by
  have exact := signed_exact a m e
  rw [value] at exact
  exact mod_cast exact

theorem applySign_mul (negative : Bool) (left right : Nat) :
    applySign negative (left * right) = applySign negative left * right := by
  cases negative <;> simp [applySign]

-- Over the common denominator the sum is exact, and the number nearest to it is the sum itself.
theorem nearestSum_whole (left : rational a m e = p) (right : rational b k f = q)
    (within : (p + q).natAbs ≤ 2 ^ 53) : IsWhole (nearestSum a m e b k f) (p + q) := by
  have positive : 0 < (fraction m e).2 * (fraction k f).2 :=
    Nat.mul_pos (fraction_positive m e) (fraction_positive k f)
  have total : applySign a ((fraction m e).1 * (fraction k f).2) +
      applySign b ((fraction k f).1 * (fraction m e).2) =
        (p + q) * ((fraction m e).2 * (fraction k f).2 : Nat) := by
    rw [applySign_mul, applySign_mul, rational_scaled left, rational_scaled right]
    push_cast
    ring
  have scale : (0 : Int) < ((fraction m e).2 * (fraction k f).2 : Nat) := mod_cast positive
  simp only [nearestSum, total]
  split
  case isTrue none =>
    rw [(mul_eq_zero.mp none).resolve_right scale.ne']
    exact zero_whole _
  case isFalse =>
    have whole := nearest_whole (p + q < 0) within positive
    have sign : (p + q) * ((fraction m e).2 * (fraction k f).2 : Nat) < 0 ↔ p + q < 0 := by
      rw [mul_comm, ← smul_eq_mul, smul_neg_iff_of_pos_left scale]
    rw [Int.natAbs_mul, Int.natAbs_natCast, decide_eq_decide.mpr sign]
    rwa [applySign_natAbs] at whole

theorem sum_whole (left : IsWhole x p) (right : IsWhole y q)
    (within : (p + q).natAbs ≤ 2 ^ 53) : IsWhole (sum x y) (p + q) := by
  obtain ⟨a, m, e, parts, value⟩ := left
  obtain ⟨b, k, f, others, other⟩ := right
  rw [sum, parts, others]
  exact nearestSum_whole value other within

theorem difference_whole (left : IsWhole x p) (right : IsWhole y q)
    (within : (p - q).natAbs ≤ 2 ^ 53) : IsWhole (difference x y) (p - q) := by
  obtain ⟨a, m, e, parts, value⟩ := left
  obtain ⟨b, k, f, others, other⟩ := right
  have negated : rational (!b) k f = (-q : Int) := by
    rw [Int.cast_neg, ← other]
    cases b <;> simp [rational]
  rw [difference, parts, others, sub_eq_add_neg]
  exact nearestSum_whole value negated (by rwa [← sub_eq_add_neg])

end Sums

end Whole

end Decimal

namespace Number
variable {clock shift : Int}

-- Both numbers are within the bound, and so is every one between them.
theorem moved_positions (within : clock.natAbs + shift.natAbs ≤ 2 ^ 53) :
    ((broken (Decimal.ofInt clock)).add (.whole shift)).position? =
        some (Position.ofInt (clock + shift)) ∧
      ((broken (Decimal.ofInt clock)).sub (.whole shift)).position? =
        some (Position.ofInt (clock - shift)) := by
  have start : Decimal.IsWhole (Decimal.ofInt clock) clock := Decimal.ofInt_whole (by omega)
  have step : Decimal.IsWhole (Decimal.ofInt shift) shift := Decimal.ofInt_whole (by omega)
  exact ⟨(Decimal.sum_whole start step (by omega)).position,
    (Decimal.difference_whole start step (by omega)).position⟩

end Number

end TenantApi
