import TenantApi.Bytes.Utf8
import TenantApi.Text.Loose

/-!
Text in units of two or four bytes, in either byte order. The strict readers keep a surrogate half
that stands alone, and refuse incomplete units and codes beyond U+10FFFF; the lossy ones write
U+FFFD for all of these.
-/

namespace TenantApi.Wide

open Decoding (Fault)

def unit16 (order : ByteOrder) (a b : UInt8) : Nat :=
  match order with
  | .big => a.toNat * 256 + b.toNat
  | .little => b.toNat * 256 + a.toNat

def units16 (order : ByteOrder) : Octets → List Nat × Octets
  | a :: b :: rest =>
      let units := units16 order rest
      (unit16 order a b :: units.1, units.2)
  | rest => ([], rest)

def unit32 (order : ByteOrder) (a b c d : UInt8) : Nat :=
  match order with
  | .big => unit16 .big a b * 0x10000 + unit16 .big c d
  | .little => unit16 .little c d * 0x10000 + unit16 .little a b

def units32 (order : ByteOrder) : Octets → List (Nat × Octets) × Octets
  | a :: b :: c :: d :: rest =>
      let units := units32 order rest
      ((unit32 order a b c d, [a, b, c, d]) :: units.1, units.2)
  | rest => ([], rest)

def isHigh (code : Nat) : Bool := 0xd800 ≤ code && code < 0xdc00

def isLow (code : Nat) : Bool := 0xdc00 ≤ code && code < 0xe000

def isScalar (code : Nat) : Bool := code < 0x110000 && !isHigh code && !isLow code

def scalar (code : Nat) : Char := if isScalar code then Char.ofNat code else '\ufffd'

def joinHalves (high low : Nat) : Nat := 0x10000 + (high - 0xd800) * 0x400 + (low - 0xdc00)

def pointsOfUnits : List Nat → List Point
  | [] => []
  | [code] => [.ofCode code]
  | high :: low :: rest =>
      if isHigh high && isLow low then
        .char (Char.ofNat (joinHalves high low)) :: pointsOfUnits rest
      else .ofCode high :: pointsOfUnits (low :: rest)

/-- `before` is the number of bytes of a mark in front, which count in positions. -/
def decode16 (order : ByteOrder) (before : Nat) (bytes : Octets) : Except Fault (List Point) :=
  let units := units16 order bytes
  if units.2.isEmpty then .ok (pointsOfUnits units.1)
  else .error ⟨.utf16 order, .incompleteUnit, before + 2 * units.1.length, units.2⟩

def readUnits32 (order : ByteOrder) :
    (position : Nat) → List (Nat × Octets) → Except Fault (List Point)
  | _, [] => .ok []
  | position, unit :: rest =>
      if unit.1 < 0x110000 then
        (readUnits32 order (position + 4) rest).map (.ofCode unit.1 :: ·)
      else .error ⟨.utf32 order, .outOfRange, position, unit.2⟩

def decode32 (order : ByteOrder) (before : Nat) (bytes : Octets) : Except Fault (List Point) := do
  let units := units32 order bytes
  let text ← readUnits32 order before units.1
  if units.2.isEmpty then return text
  throw ⟨.utf32 order, .incompleteUnit, before + 4 * units.1.length, units.2⟩

/-- With U+FFFD for an incomplete unit at the end, together with a half before it that begins a
character. -/
def decode16Lossy (order : ByteOrder) (bytes : Octets) : List Char :=
  let units := units16 order bytes
  (pointsOfUnits units.1).map Point.shown ++
    (if units.2.isEmpty || units.1.getLast?.any isHigh then [] else ['\ufffd'])

def decode32Lossy (order : ByteOrder) (bytes : Octets) : List Char :=
  let units := units32 order bytes
  units.1.map (fun unit => scalar unit.1) ++ (if units.2.isEmpty then [] else ['\ufffd'])

end TenantApi.Wide
