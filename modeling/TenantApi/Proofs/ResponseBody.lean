import TenantApi.Http.Response
import TenantApi.Proofs.Fallible

/-!
The value of a body. A body is empty, or it is a structured value, or it is plain and counts as
text. Only a plain body asks its charset, and only four kinds of charset refuse: the two that need
a mark to tell their order, those that are never one of text, and those of the platform.
-/

namespace TenantApi

namespace Charset

variable {charset : Charset} {bytes : Octets} {refusal : Refusal}

def Marked16 (bytes : Octets) : Prop := [0xfe, 0xff] <+: bytes ∨ [0xff, 0xfe] <+: bytes

def Marked32 (bytes : Octets) : Prop :=
  [0x00, 0x00, 0xfe, 0xff] <+: bytes ∨ [0xff, 0xfe, 0x00, 0x00] <+: bytes

theorem byteOrder16_none_iff : byteOrder16? bytes = none ↔ ¬Marked16 bytes := by
  unfold byteOrder16? Marked16
  split
  case h_1 | h_2 => simp
  case h_3 big little =>
    simp only [true_iff, not_or]
    constructor
    · rintro ⟨rest, rfl⟩
      exact big rest rfl
    · rintro ⟨rest, rfl⟩
      exact little rest rfl

theorem byteOrder32_none_iff : byteOrder32? bytes = none ↔ ¬Marked32 bytes := by
  unfold byteOrder32? Marked32
  split
  case h_1 | h_2 => simp
  case h_3 big little =>
    simp only [true_iff, not_or]
    constructor
    · rintro ⟨rest, rfl⟩
      exact big rest rfl
    · rintro ⟨rest, rfl⟩
      exact little rest rfl

variable [Platform]

/-- The charsets that refuse some bytes: those without an order need a mark before any full unit,
and those that are not built in refuse as the platform does. -/
inductive Refuses (bytes : Octets) : Charset → Refusal → Prop where
  | unmarked16 (unmarked : ¬Marked16 bytes) (full : 2 ≤ bytes.length) :
      Refuses bytes (.utf16 none) .unmarked16
  | unmarked32 (unmarked : ¬Marked32 bytes) (full : 4 ≤ bytes.length) :
      Refuses bytes (.utf32 none) .unmarked32
  | always (refusal : Refusal) : Refuses bytes (.refused refusal) refusal
  | platform {name : String} {codec : Octets → Except Platform.Fault LooseText}
      {fault : Platform.Fault} (own : Platform.codec name = some codec)
      (failed : codec bytes = .error fault) : Refuses bytes (.other name) (.platform fault)

theorem decodeChars_error_iff : charset.decodeChars bytes = .error refusal ↔
    Refuses bytes charset refusal ∧ charset.codec? = none := by
  constructor
  · intro refused
    unfold decodeChars at refused
    split at refused
    case h_8 =>
      split at refused
      case h_1 => contradiction
      case h_2 unmarked =>
        split at refused
        case isTrue => contradiction
        case isFalse long =>
          cases refused
          exact ⟨.unmarked16 (byteOrder16_none_iff.mp unmarked) (by omega), rfl⟩
    case h_10 =>
      split at refused
      case h_1 => contradiction
      case h_2 unmarked =>
        split at refused
        case isTrue => contradiction
        case isFalse long =>
          cases refused
          exact ⟨.unmarked32 (byteOrder32_none_iff.mp unmarked) (by omega), rfl⟩
    case h_11 =>
      cases refused
      exact ⟨.always _, rfl⟩
    all_goals contradiction
  · rintro ⟨⟨unmarked, full⟩ | ⟨unmarked, full⟩ | _ | ⟨own, _⟩, builtIn⟩
    · simp [decodeChars, byteOrder16_none_iff.mpr unmarked, Nat.not_lt.mpr full]
    · simp [decodeChars, byteOrder32_none_iff.mpr unmarked, Nat.not_lt.mpr full]
    · rfl
    · cases own.symm.trans builtIn

theorem decode_error_iff :
    charset.decode bytes = .error refusal ↔ Refuses bytes charset refusal := by
  rw [decode]
  split
  case h_1 codec own =>
    -- only a name that is not built in has a codec of the platform
    cases charset with
    | other name =>
        rw [Fallible.mapError_error]
        constructor
        · rintro ⟨fault, failed, rfl⟩
          exact .platform own failed
        · rintro (_ | _ | _ | ⟨same, failed⟩)
          cases own.symm.trans same
          exact ⟨_, failed, rfl⟩
    | _ => cases own
  case h_2 builtIn =>
    rw [Fallible.map_error, decodeChars_error_iff]
    exact and_iff_left builtIn

end Charset

namespace Response

variable {response : Response} {found : Json} {refusal : Charset.Refusal}

def IsPlain (response : Response) : Prop :=
  response.body ≠ [] ∧ ∀ value, Json.ofBytes response.body ≠ .ok value

-- Every body is one of the three.
theorem body_cases (response : Response) :
    response.body = [] ∨ (response.body ≠ [] ∧ ∃ value, Json.ofBytes response.body = .ok value) ∨
      response.IsPlain := by
  by_cases bare : response.body = []
  · exact .inl bare
  · cases read : Json.ofBytes response.body with
    | ok value => exact .inr (.inl ⟨bare, value, rfl⟩)
    | error fault => exact .inr (.inr ⟨bare, by simp [read]⟩)

variable [Platform]

inductive HasValue (response : Response) : Json → Prop where
  | empty (bare : response.body = []) : HasValue response .null
  | structured {found : Json} (full : response.body ≠ [])
      (read : Json.ofBytes response.body = .ok found) : HasValue response found
  | text {text : LooseText} (plain : response.IsPlain)
      (decoded : response.charset.decode response.body = .ok text) :
      HasValue response (.string text)

def Refused (response : Response) (refusal : Charset.Refusal) : Prop :=
  response.IsPlain ∧ Charset.Refuses response.body response.charset refusal

theorem value_plain (plain : response.IsPlain) :
    response.value = (response.charset.decode response.body).map .string := by
  obtain ⟨full, unread⟩ := plain
  have some : response.body.isEmpty = false := by simpa using full
  simp only [Response.value, Response.text, some, Bool.false_eq_true, ↓reduceIte]
  cases read : Json.ofBytes response.body with
  | ok value => exact absurd read (unread value)
  | error fault => rfl

theorem value_read (full : response.body ≠ []) (read : Json.ofBytes response.body = .ok found) :
    response.value = .ok found := by
  have some : response.body.isEmpty = false := by simpa using full
  simp only [Response.value, some, Bool.false_eq_true, ↓reduceIte, read]

theorem value_ok_iff : response.value = .ok found ↔ response.HasValue found := by
  constructor
  · intro good
    rcases response.body_cases with bare | ⟨full, other, read⟩ | plain
    · have null : response.value = .ok .null := by simp [Response.value, bare]
      cases null.symm.trans good
      exact .empty bare
    · cases (value_read full read).symm.trans good
      exact .structured full read
    · rw [value_plain plain, Fallible.map_ok] at good
      obtain ⟨text, decoded, rfl⟩ := good
      exact .text plain decoded
  · rintro (bare | ⟨full, read⟩ | ⟨plain, decoded⟩)
    · simp [Response.value, bare]
    · exact value_read full read
    · rw [value_plain plain, decoded]
      rfl

theorem value_error_iff : response.value = .error refusal ↔ response.Refused refusal := by
  constructor
  · intro failed
    rcases response.body_cases with bare | ⟨full, other, read⟩ | plain
    · simp [Response.value, bare] at failed
    · cases (value_read full read).symm.trans failed
    · rw [value_plain plain, Fallible.map_error, Charset.decode_error_iff] at failed
      exact ⟨plain, failed⟩
  · rintro ⟨plain, refuses⟩
    rw [value_plain plain, Fallible.map_error, Charset.decode_error_iff]
    exact refuses

end Response

end TenantApi
