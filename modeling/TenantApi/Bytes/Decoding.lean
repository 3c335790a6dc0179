import TenantApi.Text.Digit

/-!
Why a byte string is not text: the encoding it was read in, what was wrong, and the bytes concerned
with the number of bytes before them.
-/

namespace TenantApi

abbrev Octets := List UInt8

inductive ByteOrder where
  | big
  | little
  deriving DecidableEq, Repr

inductive Encoding where
  | utf8
  | utf16 (order : ByteOrder)
  | utf32 (order : ByteOrder)
  deriving DecidableEq, Repr

def ByteOrder.name : ByteOrder → String
  | .big => "be"
  | .little => "le"

def Encoding.name : Encoding → String
  | .utf8 => "utf-8"
  | .utf16 order => "utf-16-" ++ order.name
  | .utf32 order => "utf-32-" ++ order.name

namespace Decoding

inductive Reason where
  | start
  | continuation
  | unexpectedEnd
  /-- Fewer bytes than a unit of the encoding has. -/
  | incompleteUnit
  | outOfRange
  deriving DecidableEq, Repr

def Reason.text : Reason → String
  | .start => "invalid start byte"
  | .continuation => "invalid continuation byte"
  | .unexpectedEnd => "unexpected end of data"
  | .incompleteUnit => "truncated data"
  | .outOfRange => "code point not in range(0x110000)"

structure Fault where
  encoding : Encoding
  reason : Reason
  position : Nat
  bytes : Octets
  deriving DecidableEq, Repr

def hexByte (b : UInt8) : List Char :=
  [Text.hexDigit (b.toNat / 16), Text.hexDigit (b.toNat % 16)]

def Fault.message (fault : Fault) : String :=
  let place := match fault.bytes with
    | [b] => "byte 0x" ++ String.ofList (hexByte b) ++ " in position " ++ toString fault.position
    | bytes => "bytes in position " ++ toString fault.position ++ "-" ++
        toString (fault.position + bytes.length - 1)
  "'" ++ fault.encoding.name ++ "' codec can't decode " ++ place ++ ": " ++ fault.reason.text

end Decoding

end TenantApi
