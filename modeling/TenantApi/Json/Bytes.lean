import TenantApi.Bytes.Utf8
import TenantApi.Bytes.Wide
import TenantApi.Json.Reader

/-!
Reading structured text from bytes. The encoding is told from a byte order mark or, without one,
from where the zero bytes stand among the first four; it is UTF-8 otherwise. Encoded surrogate
halves pass.
-/

namespace TenantApi.Json

inductive BytesError where
  | undecodable (fault : Decoding.Fault)
  | unreadable (error : ReadError)
  deriving DecidableEq, Repr

def BytesError.message : BytesError → String
  | .undecodable fault => fault.message
  | .unreadable error => error.message

def detectEncoding : Octets → Encoding × Nat
  | 0x00 :: 0x00 :: 0xfe :: 0xff :: _ => (.utf32 .big, 4)
  | 0xff :: 0xfe :: 0x00 :: 0x00 :: _ => (.utf32 .little, 4)
  | 0xfe :: 0xff :: _ => (.utf16 .big, 2)
  | 0xff :: 0xfe :: _ => (.utf16 .little, 2)
  | 0xef :: 0xbb :: 0xbf :: _ => (.utf8, 3)
  | a :: b :: c :: d :: _ =>
      if a = 0 then (if b = 0 then .utf32 .big else .utf16 .big, 0)
      else if b = 0 then (if c = 0 && d = 0 then .utf32 .little else .utf16 .little, 0)
      else (.utf8, 0)
  | [a, b] => (if a = 0 then .utf16 .big else if b = 0 then .utf16 .little else .utf8, 0)
  | _ => (.utf8, 0)

def half? (a b c : Octets) : Option (Fin 2048) :=
  match a, b, c with
  | [0xed], [b], [c] =>
      if Utf8.within 0xa0 0xbf b && Utf8.isContinuation c then
        some (Fin.ofNat 2048 ((b.toNat - 0xa0) * 64 + Utf8.tail c))
      else none
  | _, _, _ => none

def readPoints : (position : Nat) → List Utf8.Piece → Except Decoding.Fault (List Point)
  | _, [] => .ok []
  | position, .char c :: rest =>
      match readPoints (position + (Utf8.charBytes c).length) rest with
      | .ok text => .ok (.char c :: text)
      | .error fault => .error fault
  | position, .bad reason a :: .bad _ b :: .bad _ c :: rest =>
      match half? a b c with
      | none => .error ⟨.utf8, reason, position, a⟩
      | some offset => match readPoints (position + 3) rest with
        | .ok text => .ok (.half offset :: text)
        | .error fault => .error fault
  | position, .bad reason bytes :: _ => .error ⟨.utf8, reason, position, bytes⟩

def decodeText (bytes : Octets) : Except Decoding.Fault (List Point) :=
  match detectEncoding bytes with
  | (.utf8, mark) => readPoints 0 (Utf8.pieces (bytes.drop mark))
  | (.utf16 order, mark) => Wide.decode16 order mark (bytes.drop mark)
  | (.utf32 order, mark) => Wide.decode32 order mark (bytes.drop mark)

def ofBytes (bytes : Octets) : Except BytesError Json :=
  match decodeText bytes with
  | .error fault => .error (.undecodable fault)
  | .ok text => match readDocument (halvesOf text) (text.map Point.shown) with
    | .ok value => .ok value
    | .error error => .error (.unreadable error)

end TenantApi.Json
