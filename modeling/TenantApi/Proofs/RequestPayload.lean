import TenantApi.Proofs.PayloadParts
import TenantApi.Proofs.SchemaRoundTrip
import TenantApi.Resource.Catalogue

/-!
Payloads of requests. A request has one unless its free-form data nest too deep. What is sent for it
is checked to the same request again, as long as no key in that data has a half of a surrogate pair:
null fields are left out where null is what their absence means, and all other data is written as
the kinds of their fields read it. A kind is told to be like that field by field.
-/

namespace TenantApi

namespace Schema

open Datum (Sendable filled)

/-- Data that a kind has made, and makes again of its payload. -/
structure Kept (kind : Kind) (result : Datum) : Prop where
  sendable : result.Sendable
  again : result.wholeKeys = true → kind.read (Datum.ofJson result.payload) = .ok result

def Kind.isNullable : Kind → Bool
  | .optional _ | .anything => true
  | _ => false

mutual

/-- Kinds whose data can be read back from a payload. Records have no members but the declared ones,
and a field that may be null is null when it is absent. -/
def Kind.Wired : Kind → Prop
  | .list item => item.isNullable = false ∧ Kind.Wired item
  | .optional kind => Kind.Wired kind
  | .model isOpen fields =>
      isOpen = false ∧ (names fields).Nodup ∧ Unaliased fields ∧ FieldsWired fields
  | .moment | .anything => False
  | _ => True

def FieldsWired : List (FieldHead × Kind) → Prop
  | [] => True
  | (head, kind) :: rest =>
      (kind.isNullable = true → head.fallback = some .null) ∧
        (∀ fallback, head.fallback = some fallback → fallback = .null ∨ Kept kind fallback) ∧
        Kind.Wired kind ∧ FieldsWired rest

end

section Reading
variable {field : FieldHead × Kind} {entry : LooseText × Datum} {members : Members} {sent : Entries}

-- Null is made where null is allowed, and nowhere else.
theorem read_full {kind : Kind} {value result : Datum} (strict : kind.isNullable = false)
    (read : kind.read value = .ok result) : result ≠ .null := by
  rintro rfl
  cases kind with
  | text =>
      obtain ⟨_, same⟩ := text_result read
      contradiction
  | integer =>
      obtain ⟨_, same⟩ := integer_result (by rwa [Kind.read] at read)
      contradiction
  | truth =>
      obtain ⟨_, same⟩ := truth_result (by rwa [Kind.read] at read)
      contradiction
  | moment =>
      obtain ⟨_, same⟩ := moment_result (by rwa [Kind.read] at read)
      contradiction
  | mapping => cases value <;> simp [Kind.read, fail] at read
  | choice e =>
      obtain ⟨_, same, _⟩ := choice_result (by rwa [Kind.read] at read)
      contradiction
  | list item =>
      obtain ⟨items, rfl⟩ := list_reads_list read
      obtain ⟨_, same, _⟩ := list_read_iff.mp read
      contradiction
  | model isOpen fields =>
      obtain ⟨_, _, _, _, _, same⟩ := model_read_iff.mp read
      contradiction
  | optional | anything => contradiction

def FieldKept (field : FieldHead × Kind) (value : Datum) : Prop :=
  value = .null ∧ field.1.fallback = some .null ∨ value ≠ .null ∧ Kept field.2 value

theorem given_kept (alone : field.1.otherName = none)
    (absent : field.2.isNullable = true → field.1.fallback = some .null)
    (passes : ∀ fallback, field.1.fallback = some fallback →
      fallback = .null ∨ Kept field.2 fallback)
    (keeps : ∀ {value : Json} {result : Datum}, Json.isFinite value = true →
      field.2.read (Datum.ofJson value) = .ok result → Kept field.2 result)
    (finite : Json.membersFinite members = true)
    (given : Gives (Datum.ofMembers members) field entry) : FieldKept field entry.2 := by
  rcases (readField_iff alone).mp given.2 with ⟨value, present, read⟩ | ⟨_, fallback⟩
  · rw [Datum.lookup_ofMembers, Option.map_eq_some_iff] at present
    obtain ⟨item, listed, rfl⟩ := present
    by_cases null : entry.2 = .null
    · refine .inl ⟨null, absent ?_⟩
      by_contra strict
      exact read_full (Bool.not_eq_true _ ▸ strict) read null
    · have whole := Datum.membersFinite_iff.mp finite _ (Keyed.lookup_mem listed)
      exact .inr ⟨null, keeps whole read⟩
  · by_cases null : entry.2 = .null
    · exact .inl ⟨null, null ▸ fallback⟩
    · exact .inr ⟨null, (passes _ fallback).resolve_left null⟩

-- A field that is left out is null again, and any other is read again.
theorem gives_again (alone : field.1.otherName = none) (named : entry.1 = .plain field.1.name)
    (kept : FieldKept field entry.2) (whole : entry.2.wholeKeys = true)
    (found : sent.lookup entry.1 =
      if entry.2.isNull then none else some (Datum.ofJson entry.2.payload)) :
    Gives sent field entry := by
  refine ⟨named, (readField_iff alone).mpr ?_⟩
  rw [named] at found
  rcases kept with ⟨null, fallback⟩ | ⟨full, kept⟩
  · rw [null] at found ⊢
    exact .inr ⟨found, fallback⟩
  · rw [if_neg (mt Datum.isNull_iff.mp full)] at found
    exact .inl ⟨_, found, kept.again whole⟩

theorem FieldKept.sendable {value : Datum} (kept : FieldKept field value) : value.Sendable := by
  rcases kept with ⟨rfl, _⟩ | ⟨_, kept⟩
  · exact .null
  · exact kept.sendable

theorem list_kept {item : Kind} {values : List Datum}
    (made : ∀ value ∈ values, value ≠ .null ∧ Kept item value) :
    Kept (.list item) (.list values) := by
  refine ⟨.list (fun value member => (made value member).1)
    fun value member => (made value member).2.sendable, fun whole => ?_⟩
  rw [Datum.payload, Datum.payloadItems_eq_map, Datum.ofJson, ofItems_eq_map, list_read_iff,
    List.map_map]
  refine ⟨values, rfl, List.forall₂_map_left_iff.mpr (List.forall₂_same.mpr ?_)⟩
  exact fun value member => (made value member).2.again (Datum.itemsWhole_iff.mp whole value member)

-- A null is read as such before the kind is asked, and the payload of no other data is one.
theorem optional_kept {kind : Kind} {result : Datum} (kept : Kept kind result) :
    Kept (.optional kind) result := by
  refine ⟨kept.sendable, fun whole => ?_⟩
  rw [optional_read]
  split
  case isFalse => exact kept.again whole
  case isTrue null =>
    have absent : result.payload = .null := by
      cases sent : result.payload with
      | null => rfl
      | _ => rw [sent] at null; contradiction
    rw [kept.sendable.payload_null absent]

def sentEntries (checked : Entries) : Entries :=
  Datum.ofMembers ((filled checked).map fun entry => (entry.1, entry.2.payload))

theorem sentEntries_found {checked : Entries} (distinct : (checked.map Prod.fst).Nodup)
    (member : entry ∈ checked) : (sentEntries checked).lookup entry.1 =
      if entry.2.isNull then none else some (Datum.ofJson entry.2.payload) := by
  rw [sentEntries, Datum.lookup_ofMembers, Datum.lookup_payload distinct member]
  cases entry.2.isNull <;> rfl

theorem record_kept {fields : List (FieldHead × Kind)} {checked : Entries}
    (distinct : (checked.map Prod.fst).Nodup) (sendable : ∀ entry ∈ checked, entry.2.Sendable)
    (again : (∀ entry ∈ checked, entry.2.wholeKeys = true) →
      List.Forall₂ (Gives (sentEntries checked)) fields checked) :
    Kept (.model false fields) (.record checked []) := by
  refine ⟨.record distinct sendable, fun whole => ?_⟩
  have inside : ∀ entry ∈ checked, entry.2.wholeKeys = true := by
    rw [Datum.wholeKeys, Bool.and_eq_true] at whole
    exact fun entry member => (Datum.entriesWhole_iff.mp whole.1 entry member).2
  rw [Datum.payload_record, Datum.ofJson, model_read_iff]
  exact ⟨_, checked, rfl, by simp, again inside, rfl⟩

end Reading

mutual

theorem read_kept : (kind : Kind) → kind.Wired → ∀ {value : Json} {result : Datum},
    Json.isFinite value = true → kind.read (Datum.ofJson value) = .ok result → Kept kind result
  | .text, _, _, _, _, read => by
      obtain ⟨t, rfl⟩ := text_result read
      exact ⟨.text t, fun _ => rfl⟩
  | .integer, _, _, _, _, read => by
      obtain ⟨n, rfl⟩ := integer_result (by rwa [Kind.read] at read)
      exact ⟨.int n, fun _ => rfl⟩
  | .truth, _, _, _, _, read => by
      obtain ⟨b, rfl⟩ := truth_result (by rwa [Kind.read] at read)
      exact ⟨.bool b, fun _ => rfl⟩
  | .mapping, _, value, _, finite, read => by
      cases value with
      | object members =>
          cases read
          refine ⟨.mapping finite, fun whole => ?_⟩
          rw [← Datum.ofJson, Datum.payload_ofJson _ finite whole]
          rfl
      | _ => contradiction
  | .choice e, _, _, _, _, read => by
      obtain ⟨member, rfl, known⟩ := choice_result (by rwa [Kind.read] at read)
      refine ⟨.choice member, fun _ => ?_⟩
      simp [Datum.payload, Datum.ofJson, Kind.read, readChoice, known]
  | .list item, wired, value, _, finite, read => by
      obtain ⟨items, values, rfl, rfl, each⟩ := list_read_json read
      have made : ∀ value ∈ values, value ≠ .null ∧ Kept item value := by
        intro value member
        obtain ⟨given, among, first⟩ := made_of_item each member
        have inside := Datum.areFinite_iff.mp finite given among
        exact ⟨read_full wired.1 first, read_kept item wired.2 inside first⟩
      exact list_kept made
  | .optional kind, wired, _, _, finite, read => by
      rcases optional_read_json read with ⟨_, rfl⟩ | inside
      · exact ⟨.null, fun _ => rfl⟩
      · exact optional_kept (read_kept kind wired finite inside)
  | .model isOpen fields, wired, value, _, finite, read => by
      obtain ⟨rfl, apart, unaliased, each⟩ := wired
      obtain ⟨entries, checked, same, _, given, rfl⟩ := model_read_iff.mp read
      cases value with
      | object members =>
          cases same
          have distinct : (checked.map Prod.fst).Nodup :=
            names_checked given ▸ keys_nodup.mpr apart
          obtain ⟨sendable, again⟩ := fields_kept fields each unaliased finite given
            fun entry member => sentEntries_found distinct member
          rw [if_neg Bool.false_ne_true]
          exact record_kept distinct sendable again
      | _ => contradiction
  | .moment, wired, _, _, _, _ | .anything, wired, _, _, _, _ => wired.elim

theorem fields_kept : (fields : List (FieldHead × Kind)) → FieldsWired fields →
    Unaliased fields → ∀ {members : Members} {sent checked : Entries},
    Json.membersFinite members = true →
    List.Forall₂ (Gives (Datum.ofMembers members)) fields checked →
    (∀ entry ∈ checked, sent.lookup entry.1 =
      if entry.2.isNull then none else some (Datum.ofJson entry.2.payload)) →
    (∀ entry ∈ checked, entry.2.Sendable) ∧
      ((∀ entry ∈ checked, entry.2.wholeKeys = true) → List.Forall₂ (Gives sent) fields checked)
  | [], _, _, _, _, _, _, given, _ => by
      cases given
      exact ⟨by simp, fun _ => .nil⟩
  | (head, kind) :: rest, wired, unaliased, members, sent, _, finite, given, found => by
      obtain ⟨absent, passes, inside, others⟩ := wired
      cases given with
      | @cons _ entry _ checked first tail =>
          have alone : head.otherName = none := unaliased _ List.mem_cons_self
          have kept : FieldKept (head, kind) entry.2 :=
            given_kept alone absent passes (read_kept kind inside) finite first
          obtain ⟨sendable, again⟩ := fields_kept rest others
            (fun field member => unaliased field (List.mem_cons_of_mem _ member)) finite tail
            fun entry member => found entry (List.mem_cons_of_mem _ member)
          refine ⟨List.forall_mem_cons.mpr ⟨kept.sendable, sendable⟩, fun whole => ?_⟩
          obtain ⟨here, later⟩ := List.forall_mem_cons.mp whole
          exact .cons (gives_again alone first.1 kept here (found entry List.mem_cons_self))
            (again later)

end

end Schema

namespace Resource

open Datum (Written)
open Schema

def requests : List Model := [
  verifyEmailJobRequest, emailVerificationIdentity, usersExportsJobRequest, usersExportsJobField,
  organizationUpdateRequest, organizationAddMembersRequest, organizationDeleteMembersRequest,
  clientGrantCreateRequest, clientGrantUpdateRequest, resourceServerUpdateRequest]

section Requests
variable {model : Model} {data : Json} {request : Datum}

end Requests

section Example

def nested : Nat → Json
  | 0 => .null
  | n + 1 => .array [nested n]

end Example

end Resource

end TenantApi
