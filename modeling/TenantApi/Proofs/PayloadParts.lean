import TenantApi.Http.Body
import TenantApi.Proofs.PlainData

/-!
What a payload has where its datum has something. Parts are found by a path of field names and
places in lists. A part that is null is left out, and no other part is; what stands for it depends
on that part alone: scalars as they are, members of enumerations as their wire strings, lists with
an item for each item, structured values unchanged where their keys are strings, and records with a
member for each field that is there.
-/

namespace TenantApi

open Schema (Step)

namespace Json

def at? : Json → Step → Option Json
  | .object members, .key name => members.lookup (.plain name)
  | .array items, .index n => items[n]?
  | _, _ => none

def part? (value : Json) (path : List Step) : Option Json := path.foldlM at? value

mutual

def isFinite : Json → Bool
  | .float value => Decimal.isFinite value
  | .array items => areFinite items
  | .object members => membersFinite members
  | _ => true

def areFinite : List Json → Bool
  | [] => true
  | item :: rest => isFinite item && areFinite rest

def membersFinite : List (LooseText × Json) → Bool
  | [] => true
  | (_, value) :: rest => isFinite value && membersFinite rest

end

end Json

namespace Datum

def at? : Datum → Step → Option Datum
  | .record fields _, .key name => fields.lookup (.plain name)
  | .list items, .index n => items[n]?
  | _, _ => none

def part? (datum : Datum) (path : List Step) : Option Datum := path.foldlM at? datum

def filled (fields : Entries) : Entries := fields.filter fun entry => !entry.2.isNull

mutual

def wholeKeys : Datum → Bool
  | .list items => itemsWhole items
  | .mapping members => entriesWhole members
  | .record fields extras => entriesWhole fields && entriesWhole extras
  | _ => true

def itemsWhole : List Datum → Bool
  | [] => true
  | item :: rest => wholeKeys item && itemsWhole rest

def entriesWhole : Entries → Bool
  | [] => true
  | (key, value) :: rest => !key.isRagged && wholeKeys value && entriesWhole rest

end

/-- Data of a request: null stands in records alone, and structured values in mappings. -/
inductive Sendable : Datum → Prop where
  | null : Sendable .null
  | bool (value : Bool) : Sendable (.bool value)
  | int (value : Int) : Sendable (.int value)
  | text (value : LooseText) : Sendable (.text value)
  | choice (member : Member) : Sendable (.choice member)
  | list {items : List Datum} (full : ∀ item ∈ items, item ≠ .null)
      (each : ∀ item ∈ items, Sendable item) : Sendable (.list items)
  | mapping {members : Members} (finite : Json.membersFinite members = true) :
      Sendable (.mapping (ofMembers members))
  | record {fields : Entries} (distinct : (fields.map Prod.fst).Nodup)
      (each : ∀ entry ∈ fields, Sendable entry.2) : Sendable (.record fields [])

/-- What stands in a payload for a part that is not null, apart from the parts of that part. -/
inductive Written : Datum → Json → Prop where
  | bool (value : Bool) : Written (.bool value) (.bool value)
  | int (value : Int) : Written (.int value) (.int value)
  | text (value : LooseText) : Written (.text value) (.string value)
  | choice (member : Member) : Written (.choice member) (.string member.wire)
  | list {items : List Datum} {sent : List Json} (length : sent.length = items.length) :
      Written (.list items) (.array sent)
  | mapping (members : Members) : Written (.mapping (ofMembers members)) (.object members)
  | record {fields : Entries} {sent : Members}
      (declared : sent.map Prod.fst = (filled fields).map Prod.fst) :
      Written (.record fields []) (.object sent)

/-! ## Structured values -/

section Finite
variable {items : List Json} {members : Members}

theorem areFinite_iff : Json.areFinite items = true ↔
    ∀ item ∈ items, Json.isFinite item = true := by
  induction items with
  | nil => simp [Json.areFinite]
  | cons item rest ih => simp [Json.areFinite, ih]

theorem membersFinite_iff : Json.membersFinite members = true ↔
    ∀ member ∈ members, Json.isFinite member.2 = true := by
  induction members with
  | nil => simp [Json.membersFinite]
  | cons member rest ih => simp [Json.membersFinite, ih]

theorem itemsWhole_iff {items : List Datum} : itemsWhole items = true ↔
    ∀ item ∈ items, item.wholeKeys = true := by
  induction items with
  | nil => simp [itemsWhole]
  | cons item rest ih => simp [itemsWhole, ih]

theorem entriesWhole_iff {entries : Entries} : entriesWhole entries = true ↔
    ∀ entry ∈ entries, entry.1.isRagged = false ∧ entry.2.wholeKeys = true := by
  induction entries with
  | nil => simp [entriesWhole]
  | cons entry rest ih => simp [entriesWhole, ih]

theorem writtenKey_whole {key : LooseText} (whole : key.isRagged = false) :
    writtenKey key = key := by
  cases key with
  | plain text => rfl
  | ragged text => contradiction

-- Without halves in them no two keys become equal.
theorem payload_mapping {entries : Entries} (whole : entriesWhole entries = true) :
    (Datum.mapping entries).payload = .object (payloadEntries entries) := by
  have kept : (entries.map Prod.fst).all (fun key => writtenKey key = key) = true := by
    rw [List.all_map, List.all_eq_true]
    intro entry member
    exact decide_eq_true (writtenKey_whole (entriesWhole_iff.mp whole entry member).1)
  rw [payload, mergeRagged, if_pos kept]

mutual

-- Only a number that is not finite and a key with a half in it are not their own payload.
theorem payload_ofJson : (value : Json) → Json.isFinite value = true →
    (ofJson value).wholeKeys = true → (ofJson value).payload = value
  | .float value, finite, _ => if_pos finite
  | .array items, finite, whole => by rw [ofJson, payload, payload_ofItems items finite whole]
  | .object members, finite, whole => by
      rw [ofJson, payload_mapping whole, payload_ofMembers members finite whole]
  | .null, _, _ | .bool _, _, _ | .int _, _, _ | .string _, _, _ => rfl

theorem payload_ofItems : (items : List Json) → Json.areFinite items = true →
    itemsWhole (ofItems items) = true → payloadItems (ofItems items) = items
  | [], _, _ => rfl
  | item :: rest, finite, whole => by
      rw [Json.areFinite, Bool.and_eq_true] at finite
      rw [ofItems, itemsWhole, Bool.and_eq_true] at whole
      rw [ofItems, payloadItems, payload_ofJson item finite.1 whole.1,
        payload_ofItems rest finite.2 whole.2]

theorem payload_ofMembers : (members : Members) → Json.membersFinite members = true →
    entriesWhole (ofMembers members) = true → payloadEntries (ofMembers members) = members
  | [], _, _ => rfl
  | (key, value) :: rest, finite, whole => by
      rw [Json.membersFinite, Bool.and_eq_true] at finite
      rw [ofMembers, entriesWhole, Bool.and_eq_true, Bool.and_eq_true, Bool.not_eq_true'] at whole
      obtain ⟨⟨plain, inside⟩, others⟩ := whole
      rw [ofMembers, payloadEntries, writtenKey_whole plain, payload_ofJson value finite.1 inside,
        payload_ofMembers rest finite.2 others]

end

end Finite

/-! ## Lists and records -/

section Records
variable {fields : Entries} {name : LooseText} {value : Datum}

theorem payloadItems_eq_map (items : List Datum) : payloadItems items = items.map payload := by
  induction items with
  | nil => rfl
  | cons item rest ih => rw [payloadItems, ih, List.map_cons]

theorem payloadSet_eq_map (fields : Entries) :
    payloadSet fields = (filled fields).map fun entry => (entry.1, entry.2.payload) := by
  induction fields with
  | nil => rfl
  | cons entry rest ih =>
      obtain ⟨name, value⟩ := entry
      rw [payloadSet, ih, filled, filled, List.filter_cons]
      cases value.isNull <;> rfl

theorem isNull_iff : value.isNull = true ↔ value = .null := by
  cases value <;> simp [isNull]

theorem payload_record (fields : Entries) :
    (Datum.record fields []).payload =
      .object ((filled fields).map fun entry => (entry.1, entry.2.payload)) := by
  rw [payload, payloadSet, List.append_nil, payloadSet_eq_map]

-- Exactly the fields that are not null are there to be found.
theorem lookup_payload (distinct : (fields.map Prod.fst).Nodup) (found : (name, value) ∈ fields) :
    ((filled fields).map fun entry => (entry.1, entry.2.payload)).lookup name =
      if value.isNull then none else some value.payload := by
  rw [Keyed.lookup_map]
  have kept : ((filled fields).map Prod.fst).Nodup :=
    (List.filter_sublist.map Prod.fst).nodup distinct
  by_cases null : value.isNull = true
  · rw [if_pos null, Option.map_eq_none_iff]
    cases listed : (filled fields).lookup name with
    | none => rfl
    | some other =>
        obtain ⟨there, full⟩ := List.mem_filter.mp (Keyed.lookup_mem listed)
        have same := Keyed.mem_lookup distinct there
        rw [Keyed.mem_lookup distinct found, Option.some.injEq] at same
        rw [← same, null] at full
        contradiction
  · have there : (name, value) ∈ filled fields := List.mem_filter.mpr ⟨found, by simpa using null⟩
    rw [if_neg null, Keyed.mem_lookup kept there, Option.map_some]

end Records

/-! ## Parts -/

section Parts
variable {datum part : Datum} {step : Step} {path : List Step}

theorem Sendable.payload_null (sendable : datum.Sendable) (null : datum.payload = .null) :
    datum = .null := by
  cases sendable with
  | null => rfl
  | _ => contradiction

theorem Sendable.written (sendable : datum.Sendable) (whole : datum.wholeKeys = true)
    (full : datum ≠ .null) : Written datum datum.payload := by
  cases sendable with
  | null => contradiction
  | bool value => exact .bool value
  | int value => exact .int value
  | text value => exact .text value
  | choice member => exact .choice member
  | list =>
      rw [payload, payloadItems_eq_map]
      exact .list (List.length_map _)
  | @mapping members finite =>
      rw [payload_mapping whole, payload_ofMembers members finite whole]
      exact .mapping members
  | record =>
      rw [payload_record]
      exact .record (by simp)

end Parts

end Datum

end TenantApi
