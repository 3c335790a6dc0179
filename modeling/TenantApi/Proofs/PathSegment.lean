import TenantApi.Argument
import TenantApi.Proofs.Percent

/-!
Identifiers as segments of a path. A blank identifier is refused. Any other is spelled with
unreserved characters and escapes in capital digits, so that nothing in it ends a segment or a path,
and the spelling can be read back: different identifiers have different segments.
-/

namespace TenantApi

namespace Url

def capitalDigits : List Char :=
  ['0', '1', '2', '3', '4', '5', '6', '7', '8', '9', 'A', 'B', 'C', 'D', 'E', 'F']

/-- A text that spells bytes: an unreserved character is its own byte, and an escape is a byte in
two capital hexadecimal digits. -/
inductive Spells : List Char → Octets → Prop where
  | nil : Spells [] []
  | plain {c : Char} {text : List Char} {bytes : Octets} (unreserved : isUnreserved c = true)
      (tail : Spells text bytes) : Spells (c :: text) (UInt8.ofNat c.toNat :: bytes)
  | escaped {high low : Nat} {a b : Char} {text : List Char} {bytes : Octets}
      (first : capitalDigits[high]? = some a) (second : capitalDigits[low]? = some b)
      (tail : Spells text bytes) :
      Spells ('%' :: a :: b :: text) (UInt8.ofNat (high * 16 + low) :: bytes)

section Spelling
variable {text more before after : List Char} {bytes rest : Octets}

theorem Spells.append (front : Spells text bytes) (back : Spells more rest) :
    Spells (text ++ more) (bytes ++ rest) := by
  induction front with
  | nil => exact back
  | plain unreserved _ ih => exact .plain unreserved ih
  | escaped first second _ ih => exact .escaped first second ih

theorem capitalDigits_get : ∀ n < 16, capitalDigits[n]? = some (Text.hexDigitUpper n) := by decide

theorem escapeBytes_spells (bytes : Octets) : Spells (bytes.flatMap escapeByte) bytes := by
  induction bytes with
  | nil => exact .nil
  | cons b rest ih =>
      have bound := b.toNat_lt
      have whole : UInt8.ofNat (b.toNat / 16 * 16 + b.toNat % 16) = b := Utf8.byte_eq (by omega)
      have spelled := Spells.escaped (capitalDigits_get (b.toNat / 16) (by omega))
        (capitalDigits_get (b.toNat % 16) (by omega)) ih
      rw [whole] at spelled
      exact spelled

theorem escapeChar_spells (c : Char) :
    Spells (escapeChar isUnreserved c) (Utf8.charBytes c) := by
  rw [escapeChar]
  split
  case isTrue unreserved =>
    have single : Utf8.charBytes c = [UInt8.ofNat c.toNat] := by
      have visible := unreserved_visible unreserved
      rw [Utf8.charBytes, if_pos (by omega)]
    rw [single]
    exact .plain unreserved .nil
  case isFalse => exact escapeBytes_spells (Utf8.charBytes c)

theorem escape_spells (text : List Char) :
    Spells (escape isUnreserved text) (Utf8.encode text) := by
  induction text with
  | nil => exact .nil
  | cons c rest ih => exact (escapeChar_spells c).append ih

-- A digit is no mark of an escape, so a mark is the first character of one.
theorem Spells.mark (spells : Spells text bytes) (cut : text = before ++ '%' :: after) :
    ∃ a ∈ capitalDigits, ∃ b ∈ capitalDigits, ∃ others, after = a :: b :: others := by
  have digit : '%' ∉ capitalDigits := by decide
  induction spells generalizing before with
  | nil => simp at cut
  | @plain c text bytes unreserved tail ih =>
      cases before with
      | nil =>
          obtain ⟨rfl, _⟩ := List.cons.inj cut
          contradiction
      | cons head front => exact ih (List.cons.inj cut).2
  | @escaped high low a b text bytes first second tail ih =>
      have left : a ∈ capitalDigits := List.mem_of_getElem? first
      have right : b ∈ capitalDigits := List.mem_of_getElem? second
      match before, cut with
      | [], cut => exact ⟨a, left, b, right, text, (List.cons.inj cut).2.symm⟩
      | [_], cut =>
          simp only [List.cons_append, List.nil_append, List.cons.injEq] at cut
          exact absurd (cut.2.1 ▸ left) digit
      | [_, _], cut =>
          simp only [List.cons_append, List.nil_append, List.cons.injEq] at cut
          exact absurd (cut.2.2.1 ▸ right) digit
      | _ :: _ :: _ :: front, cut =>
          simp only [List.cons_append, List.cons.injEq] at cut
          exact ih cut.2.2.2

end Spelling

end Url

namespace Argument

open Url (Spells capitalDigits escape isUnreserved)

/-- A segment that stands for an identifier: it spells the bytes of the identifier, has none of the
marks of an address and no mark of an escape without its two digits, and is read back. -/
structure StandsFor (segment value : String) : Prop where
  spelled : Spells segment.toList (Utf8.encode value.toList)
  unmarked : ∀ mark ∈ ['/', '?', '#'], mark ∉ segment.toList
  escapes : ∀ before after, segment.toList = before ++ '%' :: after →
    ∃ a ∈ capitalDigits, ∃ b ∈ capitalDigits, ∃ others, after = a :: b :: others
  readBack : Url.decode? segment.toList = some value.toList

variable {fault : Fault} {name value segment other : String}

theorem pathSegment_error_iff : pathSegment name value = .error fault ↔
    (∀ c ∈ value.toList, Text.isBlank c = true) ∧ fault = .noIdentifier name := by
  rw [← List.all_eq_true, ← Text.isBlankText]
  cases blank : Text.isBlankText value.toList with
  | true => simp [pathSegment, blank, eq_comm]
  | false => simp [pathSegment, blank]

theorem pathSegment_ok_iff : pathSegment name value = .ok segment ↔
    (¬∀ c ∈ value.toList, Text.isBlank c = true) ∧
      segment.toList = escape isUnreserved value.toList := by
  have text : String.ofList (escape isUnreserved value.toList) = segment ↔
      segment.toList = escape isUnreserved value.toList := by
    rw [← String.toList_inj, String.toList_ofList, eq_comm]
  rw [← List.all_eq_true, ← Text.isBlankText, ← text]
  cases blank : Text.isBlankText value.toList with
  | true => simp [pathSegment, blank]
  | false => simp [pathSegment, blank]

theorem standsFor_escape (same : segment.toList = escape isUnreserved value.toList) :
    StandsFor segment value := by
  have spelled := Url.escape_spells value.toList
  have quoted : Url.Quoted isUnreserved (escape isUnreserved value.toList) :=
    Url.escape_quoted rfl value.toList
  rw [← same] at spelled quoted
  refine ⟨spelled, ?_, fun before after => spelled.mark, ?_⟩
  · have reserved : ∀ mark ∈ ['/', '?', '#'], mark ≠ '%' ∧ isUnreserved mark = false := by
      simp only [List.forall_mem_cons]
      exact ⟨by decide, by decide, by decide, by simp⟩
    exact fun mark among => quoted.free (reserved mark among).1 (reserved mark among).2
  · rw [same, Url.decode_escape rfl]

theorem pathSegment_injective {otherName : String} (made : pathSegment name value = .ok segment)
    (again : pathSegment otherName other = .ok segment) : other = value := by
  have same := (pathSegment_ok_iff.mp again).2.symm.trans (pathSegment_ok_iff.mp made).2
  exact String.toList_inj.mp (Url.escape_injective rfl same)

/-- An identifier is refused exactly when it is blank, and has a segment of its own otherwise. -/
theorem pathSegment_lossless (name value : String) :
    (pathSegment name value = .error (.noIdentifier name) ∧
        ∀ c ∈ value.toList, Text.isBlank c = true) ∨
      ∃ segment, pathSegment name value = .ok segment ∧
        (¬∀ c ∈ value.toList, Text.isBlank c = true) ∧ StandsFor segment value ∧
        ∀ otherName other, pathSegment otherName other = .ok segment → other = value := by
  cases outcome : pathSegment name value with
  | error fault =>
      obtain ⟨blank, rfl⟩ := pathSegment_error_iff.mp outcome
      exact .inl ⟨rfl, blank⟩
  | ok segment =>
      obtain ⟨visible, same⟩ := pathSegment_ok_iff.mp outcome
      exact .inr ⟨segment, rfl, visible, standsFor_escape same,
        fun _ _ => pathSegment_injective outcome⟩

-- An identifier that has an escape in it already is not confused with what the escape stands for.
theorem pathSegment_lossless_escaped :
    pathSegment "job_id" "a/b%2Fé" = .ok "a%2Fb%252F%C3%A9" ∧
      StandsFor "a%2Fb%252F%C3%A9" "a/b%2Fé" ∧
      ∀ other, pathSegment "id" other = .ok "a%2Fb%252F%C3%A9" → other = "a/b%2Fé" := by
  have made : pathSegment "job_id" "a/b%2Fé" = .ok "a%2Fb%252F%C3%A9" := by decide +kernel
  rcases pathSegment_lossless "job_id" "a/b%2Fé" with ⟨refused, _⟩ | ⟨segment, sent, _, stands, own⟩
  · rw [made] at refused
    contradiction
  · cases made.symm.trans sent
    exact ⟨made, stands, own "id"⟩

end Argument

end TenantApi
