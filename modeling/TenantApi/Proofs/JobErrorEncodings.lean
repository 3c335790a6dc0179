import TenantApi.Proofs.JobErrorOutcomes
import TenantApi.Proofs.JsonStrings

/-!
An answer as text and as bytes. A text and its encoding come to the same, and so does either with
any number of marks in front, even where the text holds halves that have no encoding. Bytes that
encode no text are refused with the report of the decoder; a mark that is dropped before decoding
neither makes nor breaks an encoding.
-/

namespace TenantApi

namespace Utf8

theorem decode_total (octets : Octets) :
    (∃ text, octets = encode text) ∨ ∃ fault, decode octets = .error fault := by
  cases decoded : decode octets with
  | ok text => exact .inl ⟨text, (decode_iff octets text).mp decoded⟩
  | error fault => exact .inr ⟨fault, rfl⟩

theorem decode_error {octets : Octets} {fault : Decoding.Fault}
    (stuck : decode octets = .error fault) : ¬∃ text, octets = encode text := by
  rintro ⟨text, rfl⟩
  rw [decode_encode] at stuck
  contradiction

end Utf8

namespace JobErrors

def marks (n : Nat) : LooseText := .plain (String.ofList (List.replicate n byteOrderMark))

section Marks
variable {octets : Octets}

theorem points_marks (n : Nat) : (marks n).points = List.replicate n (.char byteOrderMark) := by
  rw [marks, LooseText.points, String.toList_ofList, List.map_replicate]

theorem unmarked_marks (n : Nat) (text : List Point) :
    unmarked ((marks n).points ++ text) = unmarked text := by
  rw [points_marks]
  induction n with
  | zero => rfl
  | succ n ih =>
      rw [List.replicate_succ, List.cons_append, unmarked_mark]
      exact ih

theorem encode_marks (n : Nat) :
    Utf8.encode (List.replicate n byteOrderMark) =
      (List.replicate n Utf8.byteOrderMark).flatten := by
  induction n with
  | zero => rfl
  | succ n ih =>
      rw [List.replicate_succ, List.replicate_succ, List.flatten_cons, ← ih]
      rfl

theorem encoding_dropMark :
    (∃ text, Utf8.dropMark octets = Utf8.encode text) ↔ ∃ text, octets = Utf8.encode text := by
  constructor
  · rintro ⟨text, encoded⟩
    have given : BodyOf (.bytes octets) (unmarked (text.map .char)) :=
      body_bytes_iff.mpr ⟨text, (Utf8.decode_iff _ _).mpr encoded, rfl⟩
    obtain ⟨whole, encoded, _⟩ := given
    exact ⟨whole, encoded⟩
  · rintro ⟨text, rfl⟩
    have given : BodyOf (.bytes (Utf8.encode text)) (unmarked (text.map .char)) :=
      ⟨text, rfl, rfl⟩
    obtain ⟨rest, decoded, _⟩ := body_bytes_iff.mp given
    exact ⟨rest, (Utf8.decode_iff _ _).mp decoded⟩

end Marks

section Resolving
variable {octets : Octets}

theorem resolve_encode (text : String) :
    resolve (.bytes (Utf8.encode text.toList)) = resolve (.text text) := by
  have asText : BodyOf (.text text) (unmarked (text.toList.map .char)) := rfl
  have asBytes : BodyOf (.bytes (Utf8.encode text.toList)) (unmarked (text.toList.map .char)) :=
    ⟨text.toList, rfl, rfl⟩
  rw [resolve_body asBytes, resolve_body asText]

theorem resolve_marks (n : Nat) (text : LooseText) :
    resolve (.text (marks n ++ text)) = resolve (.text text) := by
  have bare : BodyOf (.text text) (unmarked text.points) := rfl
  have marked : BodyOf (.text (marks n ++ text)) (unmarked text.points) := by
    rw [BodyOf, Json.points_append, unmarked_marks]
  rw [resolve_body marked, resolve_body bare]

theorem resolve_notUtf8 {fault : Decoding.Fault}
    (stuck : Utf8.decode (Utf8.dropMark octets) = .error fault) :
    resolve (.bytes octets) = .error (.notUtf8 fault) := by
  simp only [resolve, ofBytes, stuck]

-- What an answer comes to does not depend on whether it is given as a text or as its encoding, nor
-- on the marks in front; and the only other answers are refused by the decoder.
theorem resolve_agrees (octets : Octets) (text : String) (loose : LooseText) (n : Nat) :
    resolve (.bytes (Utf8.encode text.toList)) = resolve (.text text) ∧
    ((¬∃ text, Utf8.dropMark octets = Utf8.encode text) ↔
      ∃ fault, Utf8.decode (Utf8.dropMark octets) = .error fault ∧
        resolve (.bytes octets) = .error (.notUtf8 fault)) ∧
    resolve (.text (marks n ++ loose)) = resolve (.text loose) ∧
    resolve (.bytes ((List.replicate n Utf8.byteOrderMark).flatten ++ Utf8.encode text.toList)) =
      resolve (.bytes (Utf8.encode text.toList)) := by
  refine ⟨resolve_encode text, ⟨?refused, ?foreign⟩, resolve_marks n loose, ?marked⟩
  case refused =>
    intro foreign
    obtain ⟨fault, stuck⟩ := (Utf8.decode_total _).resolve_left foreign
    exact ⟨fault, stuck, resolve_notUtf8 stuck⟩
  case foreign =>
    rintro ⟨fault, stuck, _⟩
    exact Utf8.decode_error stuck
  case marked =>
    have marked : marks n ++ LooseText.plain text =
        .plain (String.ofList (List.replicate n byteOrderMark) ++ text) := Json.plain_append _ _
    have encoded := resolve_encode (String.ofList (List.replicate n byteOrderMark) ++ text)
    rw [String.toList_append, String.toList_ofList, Utf8.encode_append, encode_marks] at encoded
    rw [encoded, ← marked, resolve_marks, resolve_encode]

end Resolving

end JobErrors

end TenantApi
