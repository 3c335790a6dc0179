import TenantApi.Proofs.Number

/-!
Rounding to the nearest number of the format. A value lies among the multiples of one power of two,
its unit, that the format has room for; the bits of the nearest one depend on the value alone, not
on the fraction that it is written as. A number of the format is the nearest one to itself.
-/

namespace TenantApi.Decimal

section Quotients
variable {numerator denominator factor : Nat}

theorem roundDiv_mul (positive : 0 < factor) :
    roundDiv (factor * numerator) (factor * denominator) = roundDiv numerator denominator := by
  have twice : 2 * (factor * (numerator % denominator)) =
      factor * (2 * (numerator % denominator)) := Nat.mul_left_comm _ _ _
  simp only [roundDiv, Nat.mul_div_mul_left _ _ positive, Nat.mul_mod_mul_left, twice,
    Nat.mul_lt_mul_left positive]

-- Fractions of the same value have a common multiple.
theorem roundDiv_congr {a b c d : Nat} (left : 0 < b) (right : 0 < d) (same : a * d = c * b) :
    roundDiv a b = roundDiv c d := by
  calc roundDiv a b = roundDiv (d * a) (d * b) := (roundDiv_mul right).symm
    _ = roundDiv (b * c) (b * d) := by
      rw [Nat.mul_comm d a, same, Nat.mul_comm c b, Nat.mul_comm d b]
    _ = roundDiv c d := roundDiv_mul left

theorem roundDiv_whole (n : Nat) (positive : 0 < denominator) :
    roundDiv (n * denominator) denominator = n := by
  simp [roundDiv, Nat.mul_div_cancel _ positive, positive]

theorem roundDiv_positive (rounded : 0 < roundDiv numerator denominator) :
    denominator ≤ 2 * numerator := by
  by_contra small
  rw [not_le] at small
  have less : numerator < denominator := by omega
  rw [roundDiv, Nat.mod_eq_of_lt less, Nat.div_eq_of_lt less] at rounded
  simp [small] at rounded

end Quotients

/-- The unit of a value: the power of two of which a number of the format near the value is at most
`2 ^ 53` times as much, and no less than half of that unless there is no smaller unit. -/
structure IsUnitOf (value : ℚ) (exponent : Int) : Prop where
  least : -1074 ≤ exponent
  below : value < 2 ^ 53 * 2 ^ exponent
  full : exponent = -1074 ∨ 2 ^ 52 * 2 ^ exponent ≤ value

section Units
variable {value : ℚ} {exponent other : Int} {numerator denominator : Nat}

theorem IsUnitOf.not_less (unit : IsUnitOf value exponent) (again : IsUnitOf value other) :
    ¬exponent < other := by
  intro less
  have room : 2 ^ 52 * 2 ^ other ≤ value := again.full.resolve_left (by have := unit.least; omega)
  have next : (2 : ℚ) ^ (exponent + 1) ≤ 2 ^ other :=
    zpow_le_zpow_right₀ (by norm_num) (by omega)
  rw [zpow_add₀ (by norm_num), zpow_one] at next
  have bound := unit.below
  linarith

theorem IsUnitOf.unique (unit : IsUnitOf value exponent) (again : IsUnitOf value other) :
    exponent = other :=
  le_antisymm (not_lt.mp (again.not_less unit)) (not_lt.mp (unit.not_less again))

/-- What is left of a fraction when the unit is taken out. -/
theorem scaled_exact (numerator denominator : Nat) (exponent : Int) :
    ((scaleDown numerator denominator exponent).1 : ℚ) * denominator * 2 ^ exponent =
      numerator * (scaleDown numerator denominator exponent).2 := by
  simp only [scaleDown, twoTo]
  cases exponent with
  | ofNat n => simp; ring
  | negSucc n =>
      simp only [Int.neg_negSucc, Int.toNat_natCast, Int.toNat_negSucc, Nat.pow_eq, zpow_negSucc]
      push_cast
      field_simp

theorem scaled_positive (positive : 0 < denominator) :
    0 < (scaleDown numerator denominator exponent).2 :=
  Nat.mul_pos positive (Nat.pow_pos (by decide))

theorem scaled_quotient_lt (positive : 0 < denominator) (count : Nat) :
    (scaleDown numerator denominator exponent).1 / (scaleDown numerator denominator exponent).2 <
        count ↔ (numerator / denominator : ℚ) < count * 2 ^ exponent := by
  have exact := scaled_exact numerator denominator exponent
  have below : 0 < (scaleDown numerator denominator exponent).2 := scaled_positive positive
  have scale : (0 : ℚ) < denominator * 2 ^ exponent := by positivity
  have whole : (0 : ℚ) < denominator := Nat.cast_pos.mpr positive
  rw [Nat.div_lt_iff_lt_mul below, ← Nat.cast_lt (α := ℚ), Nat.cast_mul, div_lt_iff₀ whole]
  rw [← Nat.cast_pos (α := ℚ)] at below
  rw [mul_assoc] at exact
  rw [← mul_lt_mul_iff_left₀ scale, exact, mul_right_comm (count : ℚ), mul_lt_mul_iff_left₀ below,
    mul_comm (denominator : ℚ), mul_assoc (count : ℚ)]

-- A logarithm off by less than one either way leaves two units to choose from.
theorem guess_bounds (given : 0 < numerator) (positive : 0 < denominator) :
    (numerator / denominator : ℚ) < 2 ^ ((numerator.log2 : Int) - denominator.log2 + 1) ∧
      (2 : ℚ) ^ ((numerator.log2 : Int) - denominator.log2 - 1) < numerator / denominator := by
  have whole : (0 : ℚ) < denominator := Nat.cast_pos.mpr positive
  have lowAbove : (2 : ℚ) ^ numerator.log2 ≤ numerator :=
    mod_cast Nat.log2_self_le given.ne'
  have highAbove : (numerator : ℚ) < 2 ^ (numerator.log2 + 1) := mod_cast Nat.lt_log2_self
  have lowBelow : (2 : ℚ) ^ denominator.log2 ≤ denominator :=
    mod_cast Nat.log2_self_le positive.ne'
  have highBelow : (denominator : ℚ) < 2 ^ (denominator.log2 + 1) := mod_cast Nat.lt_log2_self
  constructor
  · rw [div_lt_iff₀ whole]
    calc (numerator : ℚ) < 2 ^ (numerator.log2 + 1) := highAbove
      _ = 2 ^ ((numerator.log2 : Int) - denominator.log2 + 1) * 2 ^ denominator.log2 := by
        rw [← zpow_natCast, ← zpow_natCast, ← zpow_add₀ (by norm_num)]
        congr 1
        push_cast
        ring
      _ ≤ 2 ^ ((numerator.log2 : Int) - denominator.log2 + 1) * denominator := by gcongr
  · rw [lt_div_iff₀ whole]
    calc (2 : ℚ) ^ ((numerator.log2 : Int) - denominator.log2 - 1) * denominator
      _ < 2 ^ ((numerator.log2 : Int) - denominator.log2 - 1) * 2 ^ (denominator.log2 + 1) := by
        gcongr
      _ = 2 ^ numerator.log2 := by
        rw [← zpow_natCast, ← zpow_natCast, ← zpow_add₀ (by norm_num)]
        congr 1
        push_cast
        ring
      _ ≤ numerator := lowAbove

theorem unitExponent_unit (given : 0 < numerator) (positive : 0 < denominator) :
    IsUnitOf (numerator / denominator) (unitExponent numerator denominator) := by
  obtain ⟨high, low⟩ := guess_bounds given positive
  have limit : twoTo 53 = 2 ^ 53 := rfl
  have split (exponent : Int) : (2 : ℚ) ^ (53 + exponent) = 2 ^ 53 * 2 ^ exponent :=
    zpow_add₀ (by norm_num) 53 exponent
  simp only [unitExponent]
  set guess : Int := max (-1074) ((numerator.log2 : Int) - denominator.log2 - 53) with chosen
  have reached : (numerator / denominator : ℚ) < 2 * (2 ^ 53 * 2 ^ guess) := by
    refine high.trans_le ?_
    rw [← split, ← zpow_one_add₀ (by norm_num)]
    exact zpow_le_zpow_right₀ (by norm_num) (by omega)
  split
  case isTrue large =>
    rw [← not_lt, scaled_quotient_lt positive, limit, not_lt] at large
    have next : (2 : ℚ) ^ (guess + 1) = 2 * 2 ^ guess := by
      rw [zpow_add₀ (by norm_num), zpow_one, mul_comm]
    refine ⟨by omega, ?_, .inr ?_⟩
    · rw [next]
      linarith
    · rw [next]
      push_cast at large
      linarith
  case isFalse small =>
    rw [not_le, scaled_quotient_lt positive, limit] at small
    refine ⟨by omega, mod_cast small, ?_⟩
    by_cases least : guess = -1074
    · exact .inl least
    · right
      refine le_trans (le_of_eq ?_) low.le
      rw [← zpow_natCast, ← zpow_add₀ (by norm_num)]
      congr 1
      push_cast
      omega

theorem nearestBits_unit (given : 0 < numerator) (positive : 0 < denominator)
    (unit : IsUnitOf (numerator / denominator) exponent) :
    nearestBits numerator denominator =
      min infinityBits ((exponent + 1074).toNat * twoTo 52 +
        roundDiv (scaleDown numerator denominator exponent).1
          (scaleDown numerator denominator exponent).2) := by
  rw [nearestBits, (unitExponent_unit given positive).unique unit]

end Units

section Nearest
variable {numerator denominator : Nat} {exponent : Int}

-- One value, written as two fractions.
theorem nearestBits_congr {a b c d : Nat} (given : 0 < a) (left : 0 < b) (right : 0 < d)
    (same : (a / b : ℚ) = c / d) : nearestBits a b = nearestBits c d := by
  have below : (0 : ℚ) < b := Nat.cast_pos.mpr left
  have under : (0 : ℚ) < d := Nat.cast_pos.mpr right
  have again : 0 < c := by
    have value : (0 : ℚ) < a / b := by positivity
    rw [same, lt_div_iff₀ under, zero_mul] at value
    exact mod_cast value
  have crossed : a * d = c * b := by
    rw [div_eq_div_iff below.ne' under.ne'] at same
    exact mod_cast same
  have unit := unitExponent_unit given left
  rw [nearestBits_unit given left unit, nearestBits_unit again right (same ▸ unit)]
  have scaled : roundDiv (scaleDown a b (unitExponent a b)).1 (scaleDown a b (unitExponent a b)).2 =
      roundDiv (scaleDown c d (unitExponent a b)).1 (scaleDown c d (unitExponent a b)).2 := by
    apply roundDiv_congr (scaled_positive left) (scaled_positive right)
    simp only [scaleDown]
    calc a * _ * (d * _) = a * d * (_ * _) := Nat.mul_mul_mul_comm ..
      _ = c * b * (_ * _) := by rw [crossed]
      _ = c * _ * (b * _) := Nat.mul_mul_mul_comm ..
  rw [scaled]

/-- What the parts of a number are: its significand has a full 53 binary digits, or else its unit is
the least one. -/
structure IsNormal (significand : Nat) (exponent : Int) : Prop where
  least : -1074 ≤ exponent
  most : exponent ≤ 971
  below : significand < 2 ^ 53
  full : exponent = -1074 ∨ 2 ^ 52 ≤ significand

theorem parts_normal {bits significand : Nat} {negative : Bool}
    (parts : Parts.ofBits bits = .finite negative significand exponent) :
    IsNormal significand exponent ∧
      bits % twoTo 63 = (exponent + 1074).toNat * twoTo 52 + significand ∧
      negative = (bits / twoTo 63 % 2 == 1) := by
  simp only [Parts.ofBits] at parts
  split at parts
  case isTrue => split at parts <;> contradiction
  case isFalse finite =>
    split at parts
    case isTrue zero =>
      cases parts
      simp only [twoTo, Nat.pow_eq, Nat.reducePow] at zero ⊢
      exact ⟨⟨le_rfl, by decide, by omega, .inl rfl⟩, by omega, trivial⟩
    case isFalse positive =>
      cases parts
      simp only [twoTo, Nat.pow_eq, Nat.reducePow] at finite positive ⊢
      exact ⟨⟨by omega, by omega, by omega, .inr (by omega)⟩, by omega, trivial⟩

theorem IsNormal.unit {significand : Nat} (normal : IsNormal significand exponent) :
    IsUnitOf (significand * 2 ^ exponent) exponent where
  least := normal.least
  below := by
    have below : (significand : ℚ) < 2 ^ 53 := mod_cast normal.below
    gcongr
  full := by
    refine normal.full.imp_right fun full => ?_
    have full : (2 : ℚ) ^ 52 ≤ significand := mod_cast full
    gcongr

-- A number of the format is the nearest one to its own value.
theorem nearestBits_normal {significand : Nat} (normal : IsNormal significand exponent)
    (given : 0 < numerator) (positive : 0 < denominator)
    (value : (numerator / denominator : ℚ) = significand * 2 ^ exponent) :
    nearestBits numerator denominator = (exponent + 1074).toNat * twoTo 52 + significand := by
  have whole : (denominator : ℚ) ≠ 0 := (Nat.cast_pos.mpr positive).ne'
  have power : (2 : ℚ) ^ exponent ≠ 0 := by positivity
  have exact := scaled_exact numerator denominator exponent
  rw [nearestBits_unit given positive (value ▸ normal.unit)]
  have scaled : (scaleDown numerator denominator exponent).1 =
      significand * (scaleDown numerator denominator exponent).2 := by
    rw [div_eq_iff whole] at value
    rw [value] at exact
    have crossed : ((scaleDown numerator denominator exponent).1 : ℚ) *
        (denominator * 2 ^ exponent) = significand * (scaleDown numerator denominator exponent).2 *
          (denominator * 2 ^ exponent) := by
      linear_combination exact
    have scaled := mul_right_cancel₀ (mul_ne_zero whole power) crossed
    exact mod_cast scaled
  rw [scaled, roundDiv_whole _ (scaled_positive positive)]
  apply min_eq_right
  obtain ⟨_, most, below, _⟩ := normal
  simp only [infinityBits, twoTo, Nat.pow_eq, Nat.reducePow]
  omega

-- The bits tell how large the value is.
theorem nearestBits_finite (given : 0 < numerator) (positive : 0 < denominator)
    (finite : nearestBits numerator denominator < infinityBits) :
    (numerator / denominator : ℚ) < 2 ^ (1025 : Int) := by
  have unit := unitExponent_unit given positive
  have most : unitExponent numerator denominator ≤ 972 := by
    rw [nearestBits_unit given positive unit] at finite
    simp only [infinityBits, twoTo, Nat.pow_eq, Nat.reducePow] at finite
    omega
  refine unit.below.trans_le ?_
  rw [← zpow_natCast, ← zpow_add₀ (by norm_num)]
  exact zpow_le_zpow_right₀ (by norm_num) (by push_cast; omega)

theorem nearestBits_positive (given : 0 < numerator) (positive : 0 < denominator)
    (visible : 0 < nearestBits numerator denominator) :
    (2 : ℚ) ^ (-1075 : Int) ≤ numerator / denominator := by
  have unit := unitExponent_unit given positive
  rw [nearestBits_unit given positive unit] at visible
  rcases unit.full with least | full
  · rw [least] at visible
    have exact := scaled_exact numerator denominator (-1074)
    have below : (0 : ℚ) < (scaleDown numerator denominator (-1074)).2 :=
      Nat.cast_pos.mpr (scaled_positive positive)
    have half : ((scaleDown numerator denominator (-1074)).2 : ℚ) ≤
        2 * (scaleDown numerator denominator (-1074)).1 :=
      mod_cast roundDiv_positive (by simpa using (lt_min_iff.mp visible).2)
    have double : (2 : ℚ) ^ (-1074 : Int) = 2 ^ (-1075 : Int) * 2 := by
      rw [← zpow_add_one₀ (by norm_num)]
      norm_num
    have whole : (0 : ℚ) < denominator := Nat.cast_pos.mpr positive
    rw [le_div_iff₀ whole, ← mul_le_mul_iff_left₀ below, ← exact, double]
    calc (2 : ℚ) ^ (-1075 : Int) * denominator * (scaleDown numerator denominator (-1074)).2
      _ ≤ 2 ^ (-1075 : Int) * denominator * (2 * (scaleDown numerator denominator (-1074)).1) := by
        gcongr
      _ = (scaleDown numerator denominator (-1074)).1 * denominator * (2 ^ (-1075 : Int) * 2) := by
        ring
  · refine le_trans ?_ full
    rw [← zpow_natCast, ← zpow_add₀ (by norm_num)]
    have least := unit.least
    exact zpow_le_zpow_right₀ (by norm_num) (by push_cast; omega)

end Nearest

end TenantApi.Decimal
