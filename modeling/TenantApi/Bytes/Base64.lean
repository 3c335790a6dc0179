import TenantApi.Bytes.Utf8

/-!
Base64 in the alphabet for names and addresses, where `-` and `_` stand for 62 and 63. Encoding
writes no padding. Decoding takes text without padding, or with exactly the padding that fills the
last group of four, and refuses every character outside the alphabet.
-/

namespace TenantApi.Base64

def digit (n : Nat) : Char :=
  if n < 26 then Char.ofNat (65 + n)
  else if n < 52 then Char.ofNat (71 + n)
  else if n < 62 then Char.ofNat (n - 4)
  else if n = 62 then '-' else '_'

def value? (c : Char) : Option Nat :=
  if 'A' ≤ c && c ≤ 'Z' then some (c.toNat - 65)
  else if 'a' ≤ c && c ≤ 'z' then some (c.toNat - 71)
  else if '0' ≤ c && c ≤ '9' then some (c.toNat + 4)
  else if c = '-' then some 62
  else if c = '_' then some 63
  else none

def encode : Octets → List Char
  | [] => []
  | [a] =>
      let n := a.toNat
      [digit (n / 4), digit (n % 4 * 16)]
  | [a, b] =>
      let n := a.toNat * 256 + b.toNat
      [digit (n / 1024), digit (n / 16 % 64), digit (n % 16 * 4)]
  | a :: b :: c :: rest =>
      let n := (a.toNat * 256 + b.toNat) * 256 + c.toNat
      digit (n / 262144) :: digit (n / 4096 % 64) :: digit (n / 64 % 64) :: digit (n % 64) ::
        encode rest

/-- In the alphabet of mail, where `+` and `/` stand for 62 and 63, and with padding. -/
def encodePadded (bytes : Octets) : List Char :=
  let text := (encode bytes).map fun c => if c = '-' then '+' else if c = '_' then '/' else c
  text ++ List.replicate ((4 - text.length % 4) % 4) '='

/-- The bytes of a list of digit values; one digit alone in the last group is none. -/
def bytesOfDigits : List Nat → Option Octets
  | [] => some []
  | [_] => none
  | [a, b] => some [UInt8.ofNat (a * 4 + b / 16)]
  | [a, b, c] => some [UInt8.ofNat (a * 4 + b / 16), UInt8.ofNat (b % 16 * 16 + c / 4)]
  | a :: b :: c :: d :: rest =>
      (bytesOfDigits rest).map fun bytes =>
        UInt8.ofNat (a * 4 + b / 16) :: UInt8.ofNat (b % 16 * 16 + c / 4) ::
          UInt8.ofNat (c % 4 * 64 + d) :: bytes

def dropPadding? (text : List Char) : Option (List Char) :=
  let kept := (text.reverse.dropWhile (· = '=')).reverse
  let padding := text.length - kept.length
  if padding = 0 then some kept
  else if text.length % 4 = 0 && padding ≤ 2 then some kept
  else none

def decode (text : List Char) : Option Octets := do
  let kept ← dropPadding? text
  let digits ← kept.mapM value?
  bytesOfDigits digits

end TenantApi.Base64
