import TenantApi.Platform
import TenantApi.Url.Punycode

/-!
A platform to try things out on. Its ids are numbers, it has no codecs of its own, and it encodes
host names in small letters without a check that they are valid, but for the characters that come
of it.
-/

namespace TenantApi

namespace Platform

def numbered (n : Nat) : String :=
  let digits := Nat.toDigits 16 n
  String.ofList (List.replicate (12 - digits.length) '0' ++ digits ++ List.replicate 20 '0')

def readHex (digits : List Char) : Nat :=
  digits.foldl (fun value c => value * 16 + (Text.hexValue? c).getD 0) 0

theorem readHex_append (front : List Char) (c : Char) :
    readHex (front ++ [c]) = readHex front * 16 + (Text.hexValue? c).getD 0 := by
  rw [readHex, List.foldl_append]
  rfl

theorem readHex_zeros (zeros : Nat) (digits : List Char) :
    readHex (List.replicate zeros '0' ++ digits) = readHex digits := by
  induction zeros with
  | zero => rfl
  | succ zeros ih =>
      rw [List.replicate_succ, List.cons_append, ← ih]
      rfl

theorem hexValue_digitChar : ∀ digit < 16, Text.hexValue? digit.digitChar = some digit := by
  decide

theorem readHex_digits (n : Nat) : readHex (Nat.toDigits 16 n) = n := by
  induction n using Nat.strongRecOn with
  | ind n ih =>
      have last := hexValue_digitChar (n % 16) (Nat.mod_lt n (by decide))
      by_cases small : n < 16
      · rw [Nat.mod_eq_of_lt small] at last
        simp [Nat.toDigits_of_lt_base small, readHex, last]
      · rw [Nat.toDigits_of_base_le (by decide) (by omega), readHex_append, last,
          ih (n / 16) (by omega)]
        simp only [Option.getD_some]
        omega

-- The digits can be read back, whatever zeros stand before and after them.
theorem numbered_injective {a b : Nat} (same : numbered a = numbered b) : a = b := by
  simp only [numbered, String.ofList_inj] at same
  have digits := List.append_cancel_right same
  rw [← readHex_digits a, ← readHex_digits b, ← readHex_zeros _ (Nat.toDigits 16 a), digits,
    readHex_zeros]

theorem numbered_ne_empty (n : Nat) : numbered n ≠ "" := by
  intro empty
  have nothing := congrArg String.toList empty
  simp [numbered] at nothing

def encodedHost (host : List Char) : Option (List Char) :=
  let encoded := Url.Punycode.encodeHost (Text.lower host)
  if encoded.all isHostChar then some encoded else none

theorem encodedHost_plain {host encoded : List Char} (made : encodedHost host = some encoded) :
    encoded.all isHostChar = true := by
  simp only [encodedHost, Option.ite_none_right_eq_some, Option.some.injEq] at made
  exact made.2 ▸ made.1

end Platform

namespace Stock

scoped instance platform : Platform where
  encodeHost := Platform.encodedHost
  encodeHost_plain := Platform.encodedHost_plain
  decodeHost := .ok
  codec _ := none
  decodeParameter _ := .ok
  freshId := Platform.numbered
  freshId_injective := Platform.numbered_injective
  freshId_ne_empty := Platform.numbered_ne_empty

end Stock

end TenantApi
