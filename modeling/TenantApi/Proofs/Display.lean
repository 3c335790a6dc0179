import Mathlib
import TenantApi.Json.Display

/-!
Values in messages. Every value has characters to show, and a text that is shown as it is has some
when it counts as set.
-/

namespace TenantApi

namespace Text

theorem natDigits_ne_nil (n : Nat) : natDigits n ≠ [] := Nat.toDigits_ne_nil

theorem intDigits_ne_nil (n : Int) : intDigits n ≠ [] := by
  unfold intDigits
  split
  · simp
  · exact natDigits_ne_nil _

-- Digits with a sign are the usual text of an integer.
theorem ofList_intDigits (n : Int) : String.ofList (intDigits n) = toString n := by
  cases n with
  | ofNat m =>
      have plain : ¬ (Int.ofNat m) < 0 := by simp
      rw [intDigits, if_neg plain]
      rfl
  | negSucc m =>
      rw [intDigits, if_pos (Int.negSucc_lt_zero m), String.ofList_cons]
      rfl

end Text

namespace Decimal

theorem plainText_ne_nil (digits : List Char) (point : Int) : plainText digits point ≠ [] := by
  unfold plainText
  split
  · simp
  · split <;> simp

theorem scientificText_ne_nil {digits : List Char} (some : digits ≠ []) (point : Int) :
    scientificText digits point ≠ [] := by
  obtain ⟨first, rest, rfl⟩ := List.exists_cons_of_ne_nil some
  simp [scientificText]

theorem shortestDigits_ne_nil (x : Float) (significand : Nat) (exponent : Int) :
    (shortestDigits x significand exponent).1 ≠ [] := by
  unfold shortestDigits
  split
  · simp
  · exact Text.natDigits_ne_nil _

theorem render_ne_nil (x : Float) : render plainLayout x ≠ [] := by
  unfold render
  generalize Parts.ofFloat x = parts
  cases parts with
  | nan => simp [plainLayout]
  | infinite negative => cases negative <;> simp [plainLayout]
  | finite negative significand exponent =>
      have digits := shortestDigits_ne_nil x significand exponent
      cases negative with
      | true => simp
      | false =>
          simp only [Bool.false_eq_true, ↓reduceIte]
          split
          · exact plainText_ne_nil _ _
          · exact scientificText_ne_nil digits _

end Decimal

namespace Json

theorem displayQuoted_ne_nil (value : Json) : displayQuoted value ≠ [] := by
  cases value with
  | null => simp [displayQuoted]
  | bool value => cases value <;> simp [displayQuoted]
  | int value => simpa [displayQuoted] using Text.intDigits_ne_nil value
  | float value => simpa [displayQuoted] using Decimal.render_ne_nil value
  | string value => simp [displayQuoted, LooseText.quoted]
  | array items => simp [displayQuoted]
  | object members => simp [displayQuoted]

theorem displayPlain_ne_empty {value : Json} (set : value.isTruthy = true) :
    value.displayPlain ≠ .plain "" := by
  cases value with
  | string text => simpa [isTruthy, displayPlain] using set
  | null | bool | int | float | array | object =>
      simpa [displayPlain] using displayQuoted_ne_nil _

end Json

end TenantApi
