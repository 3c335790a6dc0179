import TenantApi.Bytes.Utf8
import TenantApi.Text.Case

/-!
Percent escapes. `escape` replaces every character outside a safe set by the bytes of its encoding,
each as `%` and two capital hexadecimal digits. `requote` does the same but leaves escapes that are
there already. Decoding replaces escapes by their bytes and reads the result as UTF-8.
-/

namespace TenantApi.Url

def isUnreserved (c : Char) : Bool :=
  Text.isAsciiLetter c || Text.isAsciiDigit c || c = '-' || c = '.' || c = '_' || c = '~'

def escapeByte (b : UInt8) : List Char :=
  ['%', Text.hexDigitUpper (b.toNat / 16), Text.hexDigitUpper (b.toNat % 16)]

def escapeChar (safe : Char → Bool) (c : Char) : List Char :=
  if safe c then [c] else (Utf8.charBytes c).flatMap escapeByte

def escape (safe : Char → Bool) (text : List Char) : List Char := text.flatMap (escapeChar safe)

def isHex (c : Char) : Bool := (Text.hexValue? c).isSome

/-- Escapes, apart from what is an escape already. `skip` characters belong to one before. -/
def requoteFrom (safe : Char → Bool) : (skip : Nat) → List Char → List Char
  | _, [] => []
  | skip + 1, c :: rest => c :: requoteFrom safe skip rest
  | 0, '%' :: a :: b :: rest =>
      if isHex a && isHex b then '%' :: requoteFrom safe 2 (a :: b :: rest)
      else escapeChar safe '%' ++ requoteFrom safe 0 (a :: b :: rest)
  | 0, c :: rest => escapeChar safe c ++ requoteFrom safe 0 rest

def requote (safe : Char → Bool) (text : List Char) : List Char := requoteFrom safe 0 text

def unescapeFrom : (skip : Nat) → List Char → Octets
  | _, [] => []
  | skip + 1, _ :: rest => unescapeFrom skip rest
  | 0, '%' :: a :: b :: rest =>
      match Text.hexValue? a, Text.hexValue? b with
      | some high, some low => UInt8.ofNat (high * 16 + low) :: unescapeFrom 2 (a :: b :: rest)
      | _, _ => Utf8.charBytes '%' ++ unescapeFrom 0 (a :: b :: rest)
  | 0, c :: rest => Utf8.charBytes c ++ unescapeFrom 0 rest

def unescape (text : List Char) : Octets := unescapeFrom 0 text

def decode? (text : List Char) : Option (List Char) := (Utf8.decode (unescape text)).toOption

def decodeLossy (text : List Char) : List Char := Utf8.decodeLossy (unescape text)

end TenantApi.Url
