import TenantApi.Number
import TenantApi.Proofs.Binary64

/-!
Numbers on the line. Every number except not-a-number has an exact position among the rationals and
the two infinities, and comparing an integer with it is comparing positions: nothing is rounded,
whatever the number's format is. A finite number can be moved by any number that has a position, and
the sum has one again.
-/

namespace TenantApi

abbrev Position := WithBot (WithTop ℚ)

def Position.ofInt (n : Int) : Position := ((n : ℚ) : WithTop ℚ)

@[simp] theorem Position.ofInt_lt_ofInt {m n : Int} : ofInt m < ofInt n ↔ m < n := by
  simp [ofInt]

@[simp] theorem Position.ofInt_le_ofInt {m n : Int} : ofInt m ≤ ofInt n ↔ m ≤ n := by
  simp [ofInt]

namespace Decimal

def rational (negative : Bool) (significand : Nat) (exponent : Int) : ℚ :=
  (if negative then -1 else 1) * significand * 2 ^ exponent

def Parts.position? : Parts → Option Position
  | .nan => none
  | .infinite negative => some (if negative then ⊥ else (⊤ : WithTop ℚ))
  | .finite negative significand exponent =>
      some (rational negative significand exponent : WithTop ℚ)

theorem fraction_positive (significand : Nat) (exponent : Int) :
    0 < (fraction significand exponent).2 := by
  simp only [fraction, twoTo]
  exact Nat.pow_pos (by decide)

theorem fraction_exact (significand : Nat) (exponent : Int) :
    ((fraction significand exponent).1 : ℚ) =
      significand * 2 ^ exponent * (fraction significand exponent).2 := by
  simp only [fraction, twoTo]
  cases exponent with
  | ofNat n => simp
  | negSucc n => simp [zpow_negSucc]

-- The sign goes to the numerator.
theorem signed_exact (negative : Bool) (significand : Nat) (exponent : Int) :
    ((if negative then -((fraction significand exponent).1 : Int)
        else (fraction significand exponent).1 : Int) : ℚ) =
      rational negative significand exponent * (fraction significand exponent).2 := by
  have exact := fraction_exact significand exponent
  cases negative <;> simp [rational, exact]

section Comparing
variable {n : Int} {q : ℚ}

theorem ofInt_lt : Position.ofInt n < ((q : WithTop ℚ) : Position) ↔ (n : ℚ) < q := by
  rw [Position.ofInt, WithBot.coe_lt_coe, WithTop.coe_lt_coe]

theorem lt_ofInt : ((q : WithTop ℚ) : Position) < Position.ofInt n ↔ q < (n : ℚ) := by
  rw [Position.ofInt, WithBot.coe_lt_coe, WithTop.coe_lt_coe]

-- Multiplied by a denominator, an integer and a fraction compare as before.
theorem compare_scaled {numerator : Int} {denominator : Nat} (positive : 0 < denominator)
    (exact : (numerator : ℚ) = q * denominator) :
    compare (n * denominator : Int) numerator =
      compare (Position.ofInt n) ((q : WithTop ℚ) : Position) := by
  have scale : (0 : ℚ) < denominator := Nat.cast_pos.mpr positive
  have scaled : ((n * denominator : Int) : ℚ) = n * denominator := by push_cast; rfl
  rcases lt_trichotomy (n : ℚ) q with less | same | more
  · have under : n * denominator < numerator := by
      rw [← Int.cast_lt (R := ℚ), scaled, exact]
      exact mul_lt_mul_of_pos_right less scale
    rw [compare_lt_iff_lt.mpr under, compare_lt_iff_lt.mpr (ofInt_lt.mpr less)]
  · have equal : n * denominator = numerator := by
      rw [← Int.cast_inj (α := ℚ), scaled, exact, same]
    rw [compare_eq_iff_eq.mpr equal, compare_eq_iff_eq.mpr (by rw [Position.ofInt, same])]
  · have above : numerator < n * denominator := by
      rw [← Int.cast_lt (R := ℚ), scaled, exact]
      exact mul_lt_mul_of_pos_right more scale
    rw [compare_gt_iff_gt.mpr above, compare_gt_iff_gt.mpr (lt_ofInt.mpr more)]

theorem compare_position {x : Float} {position : Position}
    (known : (Parts.ofFloat x).position? = some position) :
    compareInt? n x = some (compare (Position.ofInt n) position) := by
  cases parts : Parts.ofFloat x with
  | nan => simp [parts, Parts.position?] at known
  | infinite negative =>
      simp only [parts, Parts.position?, Option.some.injEq] at known
      subst known
      cases negative with
      | true =>
          have above : (⊥ : Position) < Position.ofInt n := WithBot.bot_lt_coe _
          simp only [compareInt?, parts, ↓reduceIte, compare_gt_iff_gt.mpr above]
      | false =>
          have under : Position.ofInt n < ((⊤ : WithTop ℚ) : Position) :=
            WithBot.coe_lt_coe.mpr (WithTop.coe_lt_top _)
          simp only [compareInt?, parts, Bool.false_eq_true, ↓reduceIte,
            compare_lt_iff_lt.mpr under]
  | finite negative significand exponent =>
      simp only [parts, Parts.position?, Option.some.injEq] at known
      subst known
      have compared := compare_scaled (n := n) (fraction_positive significand exponent)
        (signed_exact negative significand exponent)
      simp only [compareInt?, parts, compared]

end Comparing

end Decimal

namespace Number

def position? : Number → Option Position
  | .whole value => some (Position.ofInt value)
  | .broken value => (Decimal.Parts.ofFloat value).position?

variable {bound : Number} {n : Int} {position : Position}

theorem below_iff (known : bound.position? = some position) :
    bound.below n = true ↔ position < Position.ofInt n := by
  cases bound with
  | whole value =>
      simp only [position?, Option.some.injEq] at known
      subst known
      simp [below]
  | broken value => simp [below, Decimal.compare_position known, compare_gt_iff_gt]

theorem atLeast_iff (known : bound.position? = some position) :
    bound.atLeast n = true ↔ Position.ofInt n ≤ position := by
  cases bound with
  | whole value =>
      simp only [position?, Option.some.injEq] at known
      subst known
      simp [atLeast]
  | broken value =>
      simp [atLeast, Decimal.compare_position known, compare_lt_iff_lt, le_iff_lt_or_eq]

section Moving
variable {start shift : Number}

theorem broken_position (value : Float) (number : Decimal.Parts.ofFloat value ≠ .nan) :
    ∃ position, (broken value).position? = some position := by
  cases parts : Decimal.Parts.ofFloat value with
  | nan => contradiction
  | infinite negative => exact ⟨_, by rw [position?, parts]; rfl⟩
  | finite negative significand exponent => exact ⟨_, by rw [position?, parts]; rfl⟩

theorem toFloat_number (known : shift.position? ≠ none) :
    Decimal.Parts.ofFloat shift.toFloat ≠ .nan := by
  cases shift with
  | whole value => exact Decimal.ofInt_number value
  | broken value =>
      intro nan
      apply known
      simp only [toFloat] at nan
      simp only [position?, nan, Decimal.Parts.position?]

theorem add_position (finite : Decimal.isFinite start.toFloat = true)
    (known : shift.position? ≠ none) : ∃ position, (start.add shift).position? = some position := by
  have sum := broken_position _ (Decimal.sum_number finite (toFloat_number known))
  cases start with
  | broken => exact sum
  | whole => cases shift with
    | broken => exact sum
    | whole => exact ⟨_, rfl⟩

theorem sub_position (finite : Decimal.isFinite start.toFloat = true)
    (known : shift.position? ≠ none) : ∃ position, (start.sub shift).position? = some position := by
  have difference := broken_position _ (Decimal.difference_number finite (toFloat_number known))
  cases start with
  | broken => exact difference
  | whole => cases shift with
    | broken => exact difference
    | whole => exact ⟨_, rfl⟩

end Moving

end Number

end TenantApi
