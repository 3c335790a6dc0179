import TenantApi.Proofs.PlainData
import TenantApi.Proofs.Utf8

/-!
Objects in UTF-8. The encoding of bytes is told from zero bytes and byte order marks among the first
four. A text that stands for an object begins with a brace or a gap and goes on with no zero, so
that neither is there, and its bytes are read as the object it stands for.
-/

namespace TenantApi.Json

def Opens (c : Char) : Prop := c = '{' ∨ isGap c = true

section Detection

theorem opens_byte {c : Char} (opens : Opens c) :
    ∃ b, Utf8.charBytes c = [b] ∧ (b = 0x7b ∨ b = 0x20 ∨ b = 0x09 ∨ b = 0x0a ∨ b = 0x0d) := by
  simp only [Opens, isGap, Bool.or_eq_true, decide_eq_true_eq] at opens
  rcases opens with rfl | ((rfl | rfl) | rfl) | rfl <;> exact ⟨_, rfl, by decide⟩

theorem detect_opens {first : UInt8} {rest : Octets}
    (opens : first = 0x7b ∨ first = 0x20 ∨ first = 0x09 ∨ first = 0x0a ∨ first = 0x0d)
    (second : rest.head? ≠ some 0) : detectEncoding (first :: rest) = (.utf8, 0) := by
  -- A table of first bytes is told apart by evaluation only, so each of the five is tried.
  have two (b : UInt8) :
      detectEncoding [first, b] = (if b = 0 then .utf16 .little else .utf8, 0) := by
    rcases opens with rfl | rfl | rfl | rfl | rfl <;> rfl
  have four (b c d : UInt8) (more : Octets) : detectEncoding (first :: b :: c :: d :: more) =
      if b = 0 then (if c = 0 && d = 0 then .utf32 .little else .utf16 .little, 0)
      else (.utf8, 0) := by
    rcases opens with rfl | rfl | rfl | rfl | rfl <;> rfl
  match rest with
  | [] | [_, _] => rcases opens with rfl | rfl | rfl | rfl | rfl <;> rfl
  | [b] => rw [two, if_neg (by simpa using second)]
  | b :: c :: d :: more => rw [four, if_neg (by simpa using second)]

theorem coded_head {n : Nat} {bytes : Octets} (coded : Utf8.Coded n bytes) (given : n ≠ 0)
    (rest : Octets) : (bytes ++ rest).head? ≠ some 0 := by
  have nonzero {b : UInt8} (positive : 0 < b.toNat) : b ≠ 0 := by
    rintro rfl
    contradiction
  cases coded with
  | one high code => simpa using nonzero (by omega)
  | two low high last code => simpa using nonzero (by omega)
  | three low high second last code => simpa using nonzero (by omega)
  | four low high second third last code => simpa using nonzero (by omega)

theorem encode_head {text : List Char} (given : text.head? ≠ some '\x00') :
    (Utf8.encode text).head? ≠ some 0 := by
  cases text with
  | nil => simp [Utf8.encode]
  | cons c rest =>
      have code : c.toNat ≠ 0 := by
        intro zero
        have same : c = '\x00' := Char.toNat_inj.mp zero
        exact given (congrArg some same)
      rw [Utf8.encode, List.flatMap_cons]
      exact coded_head (Utf8.charBytes_coded c) code _

theorem readPoints_chars (text : List Char) (position : Nat) :
    readPoints position (text.map .char) = .ok (text.map .char) := by
  induction text generalizing position with
  | nil => rfl
  | cons c rest ih => simp only [List.map_cons, readPoints, ih]

end Detection

section Objects
variable {text : List Char} {members : Members}

theorem skipGaps_head {c : Char} {left : List Char} (next : skipGaps text = c :: left)
    (visible : c ≠ '\x00') : text.head? ≠ some '\x00' := by
  cases text with
  | nil => simp
  | cons first rest =>
      rw [List.head?_cons, Ne, Option.some.injEq]
      rintro rfl
      have same : skipGaps ('\x00' :: rest) = '\x00' :: rest := rfl
      rw [same] at next
      exact visible (List.cons.inj next).1.symm

theorem object_opens (read : IsText noHalves text (.object members)) :
    ∃ c rest, text = c :: rest ∧ Opens c ∧ rest.head? ≠ some '\x00' := by
  obtain ⟨left, reads, _⟩ := read
  obtain ⟨written, ⟨inside, opened, rest⟩, _⟩ := reads.object_written
  cases text with
  | nil => contradiction
  | cons c others =>
      cases gap : isGap c with
      | true =>
          have next : skipGaps others = '{' :: inside := by
            rw [← opened]
            simp [skipGaps, gap]
          exact ⟨c, others, rfl, .inr gap, skipGaps_head next (by decide)⟩
      | false =>
          have same : skipGaps (c :: others) = c :: others := by simp [skipGaps, gap]
          rw [same] at opened
          obtain ⟨rfl, rfl⟩ := List.cons.inj opened
          refine ⟨_, _, rfl, .inl rfl, ?_⟩
          rcases rest with ⟨_, close⟩ | members
          · exact skipGaps_head close (by decide)
          · obtain ⟨first, more, next, good, _⟩ := members.begun
            refine skipGaps_head next ?_
            rintro rfl
            exact absurd good (by decide)

-- The bytes of a text that stands for an object are read as that object.
theorem ofBytes_object (read : IsText noHalves text (.object members)) :
    ofBytes (Utf8.encode text) = .ok (.object members) := by
  obtain ⟨c, rest, rfl, opens, second⟩ := object_opens read
  obtain ⟨b, bytes, first⟩ := opens_byte opens
  have detected : detectEncoding (Utf8.encode (c :: rest)) = (.utf8, 0) := by
    have whole : Utf8.encode (c :: rest) = b :: Utf8.encode rest := by simp [Utf8.encode, bytes]
    rw [whole]
    exact detect_opens first (encode_head second)
  have decoded : decodeText (Utf8.encode (c :: rest)) = .ok ((c :: rest).map .char) := by
    simp only [decodeText, detected, List.drop_zero]
    rw [Utf8.pieces_encode, readPoints_chars]
  simp only [ofBytes, decoded, halvesOf_chars, shown_chars, readDocument_iff.mpr read]

end Objects

end TenantApi.Json
