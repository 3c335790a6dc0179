import TenantApi.Bytes.Base64
import TenantApi.Proofs.Utf8

/-!
Unpadded Base64 reads back what it wrote. The characters written are digits of the alphabet, so a
written text holds neither padding nor the point that separates the segments of a token.
-/

namespace TenantApi.Base64

open Utf8 (byte_eq)

def digitsOf : Octets → List Nat
  | [] => []
  | [a] => [a.toNat / 4, a.toNat % 4 * 16]
  | [a, b] =>
      let n := a.toNat * 256 + b.toNat
      [n / 1024, n / 16 % 64, n % 16 * 4]
  | a :: b :: c :: rest =>
      let n := (a.toNat * 256 + b.toNat) * 256 + c.toNat
      n / 262144 :: n / 4096 % 64 :: n / 64 % 64 :: n % 64 :: digitsOf rest

theorem encode_digits (bytes : Octets) : encode bytes = (digitsOf bytes).map digit := by
  fun_induction digitsOf bytes with
  | case1 => rfl
  | case2 => rfl
  | case3 => rfl
  | case4 a b c rest n ih => simp [encode, ih, n]

theorem digits_small (bytes : Octets) : ∀ n ∈ digitsOf bytes, n < 64 := by
  fun_induction digitsOf bytes with
  | case1 => simp
  | case2 a =>
      have bound := a.toNat_lt
      simp only [List.mem_cons, List.not_mem_nil, or_false]
      rintro n (rfl | rfl) <;> omega
  | case3 a b n =>
      have boundA := a.toNat_lt
      have boundB := b.toNat_lt
      simp only [List.mem_cons, List.not_mem_nil, or_false]
      rintro m (rfl | rfl | rfl) <;> omega
  | case4 a b c rest n ih =>
      have boundA := a.toNat_lt
      have boundB := b.toNat_lt
      have boundC := c.toNat_lt
      simp only [List.mem_cons]
      rintro m (rfl | rfl | rfl | rfl | member)
      · omega
      · omega
      · omega
      · omega
      · exact ih m member

theorem bytes_of_digits (bytes : Octets) : bytesOfDigits (digitsOf bytes) = some bytes := by
  fun_induction digitsOf bytes with
  | case1 => rfl
  | case2 a =>
      have bound := a.toNat_lt
      simp only [bytesOfDigits, Option.some.injEq, List.cons.injEq, and_true]
      exact byte_eq (by omega)
  | case3 a b n =>
      have boundA := a.toNat_lt
      have boundB := b.toNat_lt
      simp only [bytesOfDigits, Option.some.injEq, List.cons.injEq, and_true]
      exact ⟨byte_eq (by omega), byte_eq (by omega)⟩
  | case4 a b c rest n ih =>
      have boundA := a.toNat_lt
      have boundB := b.toNat_lt
      have boundC := c.toNat_lt
      simp only [bytesOfDigits, ih, Option.map_some, Option.some.injEq, List.cons.injEq, and_true]
      exact ⟨byte_eq (by omega), byte_eq (by omega), byte_eq (by omega)⟩

theorem value_digit : ∀ n < 64, value? (digit n) = some n := by decide

-- No digit is padding or a point.
theorem digit_plain : ∀ n < 64, digit n ≠ '=' ∧ digit n ≠ '.' := by decide

theorem values_digits (digits : List Nat) (small : ∀ n ∈ digits, n < 64) :
    (digits.map digit).mapM value? = some digits := by
  induction digits with
  | nil => rfl
  | cons n rest ih =>
      have tail := ih (fun m member => small m (List.mem_cons_of_mem n member))
      simp [List.mapM_cons, value_digit n (small n List.mem_cons_self), tail]

theorem digit_ascii : ∀ n < 64, (digit n).toNat < 128 := by decide

-- What holds of every digit of the alphabet holds throughout.
theorem encode_forall {property : Char → Prop} (fits : ∀ n < 64, property (digit n))
    (bytes : Octets) : ∀ c ∈ encode bytes, property c := by
  intro c member
  rw [encode_digits] at member
  obtain ⟨n, inside, rfl⟩ := List.mem_map.mp member
  exact fits n (digits_small bytes n inside)

theorem encode_plain (bytes : Octets) : ∀ c ∈ encode bytes, c ≠ '=' ∧ c ≠ '.' :=
  encode_forall digit_plain bytes

theorem encode_ascii (bytes : Octets) : ∀ c ∈ encode bytes, c.toNat < 128 :=
  encode_forall digit_ascii bytes

def IsLetter (c : Char) : Prop :=
  ('A' ≤ c ∧ c ≤ 'Z') ∨ ('a' ≤ c ∧ c ≤ 'z') ∨ ('0' ≤ c ∧ c ≤ '9') ∨ c = '-' ∨ c = '_'

theorem digit_letter : ∀ n < 64, IsLetter (digit n) := by
  unfold IsLetter
  decide

theorem encode_letters (bytes : Octets) : ∀ c ∈ encode bytes, IsLetter c :=
  encode_forall digit_letter bytes

-- Whole groups have four digits, and the last one never has a digit alone.
theorem encode_grouped (bytes : Octets) : (encode bytes).length % 4 ≠ 1 := by
  fun_induction encode bytes with
  | case1 => simp
  | case2 => simp
  | case3 => simp
  | case4 a b c rest n ih =>
      simp only [List.length_cons]
      omega

section Padding
variable {text : List Char} {bytes : Octets}

theorem kept_plain (plain : ∀ c ∈ text, c ≠ '=') :
    text.reverse.dropWhile (· = '=') = text.reverse := by
  cases turned : text.reverse with
  | nil => rfl
  | cons c rest =>
      have member : c ∈ text := List.mem_reverse.mp (by simp [turned])
      simp [plain c member]

theorem dropPadding_plain (text : List Char) (plain : ∀ c ∈ text, c ≠ '=') :
    dropPadding? text = some text := by
  simp [dropPadding?, kept_plain plain]

theorem dropPadding_filled {count : Nat} (plain : ∀ c ∈ text, c ≠ '=')
    (fills : (text.length + count) % 4 = 0) (few : count ≤ 2) :
    dropPadding? (text ++ List.replicate count '=') = some text := by
  have padding : ∀ c ∈ List.replicate count '=', decide (c = '=') = true := by
    simp [List.mem_replicate]
  have kept : (List.replicate count '=' ++ text.reverse).dropWhile (· = '=') = text.reverse := by
    rw [List.dropWhile_append_of_pos padding, kept_plain plain]
  simp [dropPadding?, kept, fills, few]

theorem decode_kept (kept : dropPadding? text = some (encode bytes)) :
    decode text = some bytes := by
  have values := values_digits (digitsOf bytes) (digits_small bytes)
  rw [← encode_digits] at values
  simp [decode, kept, values, bytes_of_digits]

theorem decode_encode (bytes : Octets) : decode (encode bytes) = some bytes :=
  decode_kept (dropPadding_plain _ fun c member => (encode_plain bytes c member).1)

/-- A text that is filled up to whole groups reads back as well. -/
theorem decode_filled (bytes : Octets) :
    decode (encode bytes ++ List.replicate (-((encode bytes).length : Int) % 4).toNat '=') =
      some bytes := by
  have grouped := encode_grouped bytes
  have plain := fun c member => (encode_plain bytes c member).1
  exact decode_kept (dropPadding_filled plain (by omega) (by omega))

end Padding

end TenantApi.Base64
