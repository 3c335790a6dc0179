import TenantApi.Proofs.Utf8
import TenantApi.Url.Basic

/-!
Percent escapes keep text apart from the marks of an address. Escaped text consists of unreserved
characters and escapes, so that no part of an address is cut in it and escaping once more changes
nothing; reading it back gives the text that was escaped.
-/

namespace TenantApi.Url

section Characters
variable {c : Char}

theorem between_iff {low high : Char} :
    (low ≤ c && c ≤ high) = true ↔ low.toNat ≤ c.toNat ∧ c.toNat ≤ high.toNat := by
  simp only [Char.le_def, UInt32.le_iff_toNat_le, Bool.and_eq_true, decide_eq_true_eq]
  rfl

theorem isHex_unreserved (hex : isHex c = true) : isUnreserved c = true := by
  simp only [isUnreserved, Text.isAsciiLetter, Text.isAsciiDigit, Bool.or_eq_true, between_iff]
  simp only [isHex, Text.hexValue?, between_iff] at hex
  simp only [Char.reduceToNat] at hex ⊢
  split at hex
  case isTrue digit => simp [digit]
  case isFalse =>
    split at hex
    case isTrue small =>
      have letter : 97 ≤ c.toNat ∧ c.toNat ≤ 122 := by omega
      simp [letter]
    case isFalse =>
      split at hex
      case isTrue capital =>
        have letter : 65 ≤ c.toNat ∧ c.toNat ≤ 90 := by omega
        simp [letter]
      case isFalse => contradiction

theorem unreserved_visible (unreserved : isUnreserved c = true) :
    0x21 ≤ c.toNat ∧ c.toNat ≤ 0x7e := by
  simp only [isUnreserved, Text.isAsciiLetter, Text.isAsciiDigit, Bool.or_eq_true, between_iff,
    decide_eq_true_eq, Char.reduceToNat] at unreserved
  rcases unreserved with ((((((small | capital) | digit) | rfl) | rfl) | rfl) | rfl)
  · omega
  · omega
  · omega
  all_goals decide

theorem unreserved_ne {mark : Char} (reserved : isUnreserved mark = false)
    (unreserved : isUnreserved c = true) : c ≠ mark := by
  rintro rfl
  rw [unreserved] at reserved
  contradiction

theorem unreserved_pathSafe (unreserved : isUnreserved c = true) : isPathSafe c = true := by
  have visible := unreserved_visible unreserved
  have reserved : ['"', '#', '<', '>', '?', '`', '{', '}'].all (!isUnreserved ·) = true := by decide
  have unmarked : ['"', '#', '<', '>', '?', '`', '{', '}'].contains c = false := by
    rw [List.contains_eq_mem, decide_eq_false_iff_not]
    intro mark
    have excluded := List.all_eq_true.mp reserved c mark
    rw [unreserved] at excluded
    contradiction
  simp only [isPathSafe, isVisibleBut, unmarked, Bool.not_false, Bool.and_true, Bool.and_eq_true,
    decide_eq_true_eq]
  exact visible

end Characters

/-- Text of which every character is safe or belongs to an escape. -/
inductive Quoted (safe : Char → Bool) : List Char → Prop where
  | nil : Quoted safe []
  | plain {c : Char} {rest : List Char} (fits : safe c = true) (unmarked : c ≠ '%')
      (tail : Quoted safe rest) : Quoted safe (c :: rest)
  | escaped {a b : Char} {rest : List Char} (first : isHex a = true) (second : isHex b = true)
      (tail : Quoted safe rest) : Quoted safe ('%' :: a :: b :: rest)

section Quoting
variable {safe : Char → Bool} {text rest : List Char}

theorem Quoted.append (front : Quoted safe text) (back : Quoted safe rest) :
    Quoted safe (text ++ rest) := by
  induction front with
  | nil => exact back
  | plain fits unmarked _ ih => exact .plain fits unmarked ih
  | escaped first second _ ih => exact .escaped first second ih

theorem Quoted.mono {wider : Char → Bool} (within : ∀ c, safe c = true → wider c = true)
    (quoted : Quoted safe text) : Quoted wider text := by
  induction quoted with
  | nil => exact .nil
  | plain fits unmarked _ ih => exact .plain (within _ fits) unmarked ih
  | escaped first second _ ih => exact .escaped first second ih

theorem quoted_of_plain (fits : ∀ c ∈ text, safe c = true ∧ c ≠ '%') : Quoted safe text := by
  induction text with
  | nil => exact .nil
  | cons c rest ih =>
      have head := fits c List.mem_cons_self
      exact .plain head.1 head.2 (ih fun d member => fits d (List.mem_cons_of_mem c member))

-- What holds of the unreserved characters and of the mark of an escape holds throughout.
theorem Quoted.forall {property : Char → Prop} (quoted : Quoted isUnreserved text)
    (mark : property '%') (unreserved : ∀ c, isUnreserved c = true → property c) :
    ∀ c ∈ text, property c := by
  induction quoted with
  | nil => simp
  | plain fits _ _ ih =>
      simp only [List.forall_mem_cons]
      exact ⟨unreserved _ fits, ih⟩
  | escaped first second _ ih =>
      simp only [List.forall_mem_cons]
      have digits := And.intro (isHex_unreserved first) (isHex_unreserved second)
      exact ⟨mark, unreserved _ digits.1, unreserved _ digits.2, ih⟩

theorem Quoted.free {mark : Char} (quoted : Quoted isUnreserved text) (other : mark ≠ '%')
    (reserved : isUnreserved mark = false) : mark ∉ text := by
  intro member
  have different : ∀ c ∈ text, c ≠ mark :=
    quoted.forall other.symm fun c unreserved => unreserved_ne reserved unreserved
  exact different mark member rfl

theorem requote_quoted (quoted : Quoted safe text) : requote safe text = text := by
  simp only [requote]
  induction quoted with
  | nil => rfl
  | plain fits unmarked _ ih => simp [requoteFrom, unmarked, escapeChar, fits, ih]
  | escaped first second _ ih => simp [requoteFrom, first, second, ih]

end Quoting

section Escaping
variable {safe : Char → Bool}

theorem hexDigitUpper_isHex : ∀ n < 16, isHex (Text.hexDigitUpper n) = true := by decide

theorem hexValue_hexDigitUpper : ∀ n < 16, Text.hexValue? (Text.hexDigitUpper n) = some n := by
  decide

theorem escapeBytes_quoted (bytes : Octets) : Quoted safe (bytes.flatMap escapeByte) := by
  induction bytes with
  | nil => exact .nil
  | cons b rest ih =>
      have bound := b.toNat_lt
      rw [List.flatMap_cons, escapeByte]
      exact .escaped (hexDigitUpper_isHex _ (by omega)) (hexDigitUpper_isHex _ (by omega)) ih

theorem escape_quoted (mark : safe '%' = false) (text : List Char) :
    Quoted safe (escape safe text) := by
  induction text with
  | nil => exact .nil
  | cons c rest ih =>
      rw [escape, List.flatMap_cons]
      refine Quoted.append ?_ ih
      simp only [escapeChar]
      by_cases fits : safe c = true
      · have unmarked : c ≠ '%' := by
          rintro rfl
          rw [fits] at mark
          contradiction
        rw [if_pos fits]
        exact .plain fits unmarked .nil
      · rw [if_neg fits]
        exact escapeBytes_quoted (Utf8.charBytes c)

theorem unescape_bytes (bytes : Octets) (rest : List Char) :
    unescape (bytes.flatMap escapeByte ++ rest) = bytes ++ unescape rest := by
  induction bytes with
  | nil => rfl
  | cons b more ih =>
      have bound := b.toNat_lt
      have high := hexValue_hexDigitUpper (b.toNat / 16) (by omega)
      have low := hexValue_hexDigitUpper (b.toNat % 16) (by omega)
      have whole : UInt8.ofNat (b.toNat / 16 * 16 + b.toNat % 16) = b := Utf8.byte_eq (by omega)
      simp only [unescape] at ih
      simp [unescape, escapeByte, unescapeFrom, high, low, whole, ih]

theorem unescape_char (mark : safe '%' = false) (c : Char) (rest : List Char) :
    unescape (escapeChar safe c ++ rest) = Utf8.charBytes c ++ unescape rest := by
  simp only [escapeChar]
  by_cases fits : safe c = true
  · have unmarked : c ≠ '%' := by
      rintro rfl
      rw [fits] at mark
      contradiction
    simp [fits, unescape, unescapeFrom, unmarked]
  · rw [if_neg fits]
    exact unescape_bytes (Utf8.charBytes c) rest

theorem unescape_escape (mark : safe '%' = false) (text : List Char) :
    unescape (escape safe text) = Utf8.encode text := by
  induction text with
  | nil => rfl
  | cons c rest ih =>
      rw [escape, List.flatMap_cons, unescape_char mark, ← escape, ih]
      rfl

theorem decode_escape (mark : safe '%' = false) (text : List Char) :
    decode? (escape safe text) = some text := by
  rw [decode?, unescape_escape mark, Utf8.decode_encode]
  rfl

theorem escape_injective (mark : safe '%' = false) {left right : List Char}
    (same : escape safe left = escape safe right) : left = right := by
  have read := congrArg decode? same
  rw [decode_escape mark, decode_escape mark] at read
  exact Option.some.inj read

end Escaping

end TenantApi.Url
