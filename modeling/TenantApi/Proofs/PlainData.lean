import TenantApi.Proofs.JsonText
import TenantApi.Proofs.Keyed
import TenantApi.Proofs.SchemaReading

/-!
Structured values as data. A value that was read from text has no key twice in any of its objects:
of repeated keys the last one counts, in the place of the first. As a datum it is its own view, for
only records are changed by a view.
-/

namespace TenantApi

namespace Datum

mutual

def Plain : Datum → Prop
  | .list items => PlainItems items
  | .mapping entries => (entries.map Prod.fst).Nodup ∧ PlainEntries entries
  | .record _ _ => False
  | _ => True

def PlainItems : List Datum → Prop
  | [] => True
  | item :: rest => Plain item ∧ PlainItems rest

def PlainEntries : Entries → Prop
  | [] => True
  | (_, value) :: rest => Plain value ∧ PlainEntries rest

end

section Parts
variable {items : List Datum} {entries : Entries}

theorem plainItems_iff : PlainItems items ↔ ∀ item ∈ items, Plain item := by
  induction items with
  | nil => simp [PlainItems]
  | cons item rest ih => simp [PlainItems, ih]

theorem plainEntries_iff : PlainEntries entries ↔ ∀ entry ∈ entries, Plain entry.2 := by
  induction entries with
  | nil => simp [PlainEntries]
  | cons entry rest ih => simp [PlainEntries, ih]

theorem viewItems_eq_map (items : List Datum) : viewItems items = items.map view := by
  induction items with
  | nil => rfl
  | cons item rest ih => rw [viewItems, ih, List.map_cons]

theorem viewEntries_eq_map (entries : Entries) :
    viewEntries entries = entries.map fun entry => (entry.1, entry.2.view) := by
  induction entries with
  | nil => rfl
  | cons entry rest ih => rw [viewEntries, ih, List.map_cons]

theorem ofMembers_eq_map (members : Members) :
    ofMembers members = members.map fun member => (member.1, ofJson member.2) := by
  induction members with
  | nil => rfl
  | cons member rest ih => rw [ofMembers, ih, List.map_cons]

theorem lookup_ofMembers {key : LooseText} (members : Members) :
    (ofMembers members).lookup key = (members.lookup key).map ofJson := by
  rw [ofMembers_eq_map, Keyed.lookup_map]

theorem insertAll_eq (entries added : Entries) :
    insertAll entries added = Keyed.putAll entries added := by
  have put (key : LooseText) (value : Datum) (list : Entries) :
      insert key value list = Keyed.put key value list := by
    induction list with
    | nil => rfl
    | cons entry rest ih => rw [insert, Keyed.put, ih]
  rw [insertAll, Keyed.putAll]
  simp only [put]

end Parts

mutual

theorem view_plain : {value : Datum} → (plain : Plain value) → value.view = value
  | .list items, plain => by rw [view, viewItems_plain plain]
  | .mapping entries, plain => by rw [view, viewEntries_plain plain.2]
  | .record _ _, plain => plain.elim
  | .null, _ | .bool _, _ | .int _, _ | .float _, _ | .text _, _ | .moment _, _
  | .choice _, _ => rfl

theorem viewItems_plain :
    {items : List Datum} → (plain : PlainItems items) → viewItems items = items
  | [], _ => rfl
  | item :: rest, plain => by rw [viewItems, view_plain plain.1, viewItems_plain plain.2]

theorem viewEntries_plain :
    {entries : Entries} → (plain : PlainEntries entries) → viewEntries entries = entries
  | [], _ => rfl
  | (key, value) :: rest, plain => by
      rw [viewEntries, view_plain plain.1, viewEntries_plain plain.2]

end

mutual

theorem view_ofJson : (value : Json) → (ofJson value).view = ofJson value
  | .array items => by rw [ofJson, view, viewItems_ofItems items]
  | .object members => by rw [ofJson, view, viewEntries_ofMembers members]
  | .null | .bool _ | .int _ | .float _ | .string _ => rfl

theorem viewItems_ofItems : (items : List Json) → viewItems (ofItems items) = ofItems items
  | [] => rfl
  | item :: rest => by rw [ofItems, viewItems, view_ofJson item, viewItems_ofItems rest]

theorem viewEntries_ofMembers :
    (members : Members) → viewEntries (ofMembers members) = ofMembers members
  | [] => rfl
  | (key, value) :: rest => by
      rw [ofMembers, viewEntries, view_ofJson value, viewEntries_ofMembers rest]

end

end Datum

namespace Json

section Collecting
variable {key : LooseText} {written : Members}

theorem collect_eq (written : Members) : collect written = Keyed.putAll [] written := by
  have put (key : LooseText) (value : Json) (list : Members) :
      insert key value list = Keyed.put key value list := by
    induction list with
    | nil => rfl
    | cons member rest ih => rw [insert, Keyed.put, ih]
  rw [collect, Keyed.putAll]
  simp only [put]

-- Under a key that is written more than once stands the last of its values.
theorem lookup_collect (written : Members) :
    (collect written).lookup key = written.reverse.lookup key := by
  rw [collect_eq, Keyed.lookup_putAll]
  simp

theorem collect_nodup (written : Members) : ((collect written).map Prod.fst).Nodup := by
  rw [collect_eq]
  exact Keyed.nodup_putAll List.nodup_nil

theorem collect_plain (each : ∀ member ∈ written, (Datum.ofJson member.2).Plain) :
    (Datum.ofJson (.object (collect written))).Plain := by
  rw [Datum.ofJson, Datum.Plain, Datum.ofMembers_eq_map, Datum.plainEntries_iff]
  constructor
  · rw [List.map_map]
    exact collect_nodup written
  · intro entry member
    obtain ⟨found, among, rfl⟩ := List.mem_map.mp member
    rw [collect_eq] at among
    rcases Keyed.mem_putAll among with none | given
    · contradiction
    · exact each found given

end Collecting

section Tokens
variable {halves : Halves} {text left : List Char} {value : Json}

-- Arrays and objects have brackets; a word or a number is neither.
theorem plain_flat (token : scanPlain text = .ok (value, left)) :
    (∀ items, value ≠ .array items) ∧ ∀ members, value ≠ .object members := by
  unfold scanPlain at token
  split at token
  case h_1 found word =>
    cases token
    obtain ⟨spelled, listed, taken⟩ := List.exists_of_findSome?_eq_some word
    obtain ⟨rest, _, same⟩ := Option.map_eq_some_iff.mp taken
    cases same
    simp only [words, List.mem_cons, List.not_mem_nil, or_false] at listed
    rcases listed with rfl | rfl | rfl | rfl | rfl | rfl <;> simp
  case h_2 =>
    simp only [scanNumber] at token
    split at token
    case h_1 => simp at token
    case h_2 =>
      split at token
      case h_1 =>
        split at token
        case isTrue => simp at token
        case isFalse =>
          cases token
          simp
      case h_2 =>
        cases token
        simp

/-- The members between the braces at the start of a text, repeated keys included. -/
def Written (halves : Halves) (text : List Char) (members : Members) (left : List Char) : Prop :=
  ∃ rest, text = '{' :: rest ∧
    (members = [] ∧ skipGaps rest = '}' :: left ∨
      Reads halves (skipGaps rest) (.members members) left)

theorem Reads.object_written {members : Members}
    (read : Reads halves text (.value (.object members)) left) :
    ∃ written, Written halves text written left ∧ members = collect written := by
  cases read with
  | @emptyObject rest _ close => exact ⟨[], ⟨rest, rfl, .inl ⟨rfl, close⟩⟩, rfl⟩
  | @object rest _ written inside => exact ⟨written, ⟨rest, rfl, .inr inside⟩, rfl⟩
  | plain token => exact absurd rfl ((plain_flat token).2 members)

end Tokens

def Parsed.Plain : Parsed → Prop
  | .value found => (Datum.ofJson found).Plain
  | .items found => ∀ item ∈ found, (Datum.ofJson item).Plain
  | .members found => ∀ member ∈ found, (Datum.ofJson member.2).Plain

section Reading
variable {halves : Halves} {text left : List Char} {parsed : Parsed} {value : Json}

theorem plain_token (token : scanPlain text = .ok (value, left)) : (Datum.ofJson value).Plain := by
  obtain ⟨array, object⟩ := plain_flat token
  cases value with
  | array items => exact absurd rfl (array items)
  | object members => exact absurd rfl (object members)
  | null | bool | int | float | string => exact trivial

theorem Reads.keyedOnce (read : Reads halves text parsed left) : parsed.Plain := by
  induction read with
  | string token => exact trivial
  | emptyArray close => exact trivial
  | array inside ih =>
      rw [Parsed.Plain, Datum.ofJson, Datum.Plain, Schema.ofItems_eq_map, Datum.plainItems_iff]
      intro item member
      obtain ⟨found, among, rfl⟩ := List.mem_map.mp member
      exact ih found among
  | emptyObject close => exact ⟨List.nodup_nil, trivial⟩
  | object inside ih => exact collect_plain ih
  | plain token => exact plain_token token
  | lastItem first close ih => exact List.forall_mem_singleton.mpr ih
  | item first comma others ih tail => exact List.forall_mem_cons.mpr ⟨ih, tail⟩
  | lastMember name colon first close ih => exact List.forall_mem_singleton.mpr ih
  | member name colon first comma others ih tail => exact List.forall_mem_cons.mpr ⟨ih, tail⟩

theorem IsText.keyedOnce (read : IsText halves text value) : (Datum.ofJson value).Plain := by
  obtain ⟨left, read, _⟩ := read
  exact read.keyedOnce

end Reading

end Json

end TenantApi
