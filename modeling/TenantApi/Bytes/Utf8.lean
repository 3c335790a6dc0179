import TenantApi.Bytes.Decoding

/-!
UTF-8. A byte string falls into pieces: characters, and runs of bytes that start no character. A
bad run is as long as a character could still have come of it. Strict decoding stops at the first
bad run and reports where it is; lossy decoding writes U+FFFD for each. Encoding is the other
direction, so a decoded text encodes to its bytes.
-/

namespace TenantApi.Utf8

open Decoding (Reason Fault)

inductive Piece where
  | char (c : Char)
  | bad (reason : Reason) (bytes : Octets)
  deriving DecidableEq, Repr

/-- What a first byte announces. The bounds are those of the second byte. -/
inductive Lead where
  | single
  | two
  | three (least most : UInt8)
  | four (least most : UInt8)
  | none
  deriving DecidableEq, Repr

def lead (b : UInt8) : Lead :=
  if b < 0x80 then .single
  else if b < 0xc2 then .none
  else if b < 0xe0 then .two
  else if b = 0xe0 then .three 0xa0 0xbf
  else if b = 0xed then .three 0x80 0x9f
  else if b < 0xf0 then .three 0x80 0xbf
  else if b = 0xf0 then .four 0x90 0xbf
  else if b < 0xf4 then .four 0x80 0xbf
  else if b = 0xf4 then .four 0x80 0x8f
  else .none

def within (least most b : UInt8) : Bool := least ≤ b && b ≤ most

def isContinuation (b : UInt8) : Bool := within 0x80 0xbf b

def tail (b : UInt8) : Nat := b.toNat % 64

/-- The first piece of a byte string that begins with `b`, and the number of bytes after `b` that
belong to it. -/
def firstPiece (b : UInt8) (rest : Octets) : Piece × Nat :=
  match lead b, rest with
  | .single, _ => (.char (Char.ofNat b.toNat), 0)
  | .none, _ => (.bad .start [b], 0)
  | _, [] => (.bad .unexpectedEnd [b], 0)
  | .two, c :: _ =>
      if isContinuation c then (.char (Char.ofNat (b.toNat % 32 * 64 + tail c)), 1)
      else (.bad .continuation [b], 0)
  | .three least most, c :: rest =>
      if within least most c then
        match rest with
        | [] => (.bad .unexpectedEnd [b, c], 1)
        | d :: _ =>
            if isContinuation d then
              (.char (Char.ofNat ((b.toNat % 16 * 64 + tail c) * 64 + tail d)), 2)
            else (.bad .continuation [b, c], 1)
      else (.bad .continuation [b], 0)
  | .four least most, c :: rest =>
      if within least most c then
        match rest with
        | [] => (.bad .unexpectedEnd [b, c], 1)
        | d :: rest =>
            if isContinuation d then
              match rest with
              | [] => (.bad .unexpectedEnd [b, c, d], 2)
              | e :: _ =>
                  if isContinuation e then
                    (.char (Char.ofNat
                      (((b.toNat % 8 * 64 + tail c) * 64 + tail d) * 64 + tail e)), 3)
                  else (.bad .continuation [b, c, d], 2)
            else (.bad .continuation [b, c], 1)
      else (.bad .continuation [b], 0)

def piecesFrom : (skip : Nat) → Octets → List Piece
  | _, [] => []
  | skip + 1, _ :: rest => piecesFrom skip rest
  | 0, b :: rest =>
      let first := firstPiece b rest
      first.1 :: piecesFrom first.2 rest

def pieces (bytes : Octets) : List Piece := piecesFrom 0 bytes

def charBytes (c : Char) : Octets :=
  let n := c.toNat
  if n < 0x80 then [UInt8.ofNat n]
  else if n < 0x800 then [UInt8.ofNat (0xc0 + n / 64), UInt8.ofNat (0x80 + n % 64)]
  else if n < 0x10000 then
    [UInt8.ofNat (0xe0 + n / 4096), UInt8.ofNat (0x80 + n / 64 % 64), UInt8.ofNat (0x80 + n % 64)]
  else
    [UInt8.ofNat (0xf0 + n / 262144), UInt8.ofNat (0x80 + n / 4096 % 64),
      UInt8.ofNat (0x80 + n / 64 % 64), UInt8.ofNat (0x80 + n % 64)]

def encode (text : List Char) : Octets := text.flatMap charBytes

def readPieces : (position : Nat) → List Piece → Except Fault (List Char)
  | _, [] => .ok []
  | position, .bad reason bytes :: _ => .error ⟨.utf8, reason, position, bytes⟩
  | position, .char c :: rest =>
      match readPieces (position + (charBytes c).length) rest with
      | .ok text => .ok (c :: text)
      | .error fault => .error fault

def decode (bytes : Octets) : Except Fault (List Char) := readPieces 0 (pieces bytes)

def Piece.lossy : Piece → Char
  | .char c => c
  | .bad .. => '\ufffd'

def decodeLossy (bytes : Octets) : List Char := (pieces bytes).map Piece.lossy

def byteOrderMark : Octets := [0xef, 0xbb, 0xbf]

def dropMark : Octets → Octets
  | 0xef :: 0xbb :: 0xbf :: rest => rest
  | bytes => bytes

end TenantApi.Utf8
