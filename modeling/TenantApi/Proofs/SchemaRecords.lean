import TenantApi.Proofs.PlainData

/-!
What a record is made of. Each declared field has a value: what its kind reads from the entry of the
field's name, or the field's default when there is no such entry. The entries of all other names are
kept as they are. The laws about names are for fields that have no other name.
-/

namespace TenantApi.Schema

def readField (field : FieldHead × Kind) (entries : Entries) : Except (List Issue) Datum :=
  match field.1.key? entries with
  | some key => within (.key key) (field.2.read ((entries.lookup (.plain key)).getD .null))
  | none => match field.1.fallback with
    | some fallback => .ok fallback
    | none => .error [⟨.missing, [.key field.1.name]⟩]

def Gives (entries : Entries) (field : FieldHead × Kind) (entry : LooseText × Datum) : Prop :=
  entry.1 = .plain field.1.name ∧ readField field entries = .ok entry.2

def names (fields : List (FieldHead × Kind)) : List String := fields.map fun field => field.1.name

def keys (fields : List (FieldHead × Kind)) : List LooseText := (names fields).map .plain

def Whole {α : Type} (entries : List (LooseText × α)) : Prop :=
  ∀ entry ∈ entries, entry.1.isRagged = false

def Used (fields : List (FieldHead × Kind)) (entries : Entries) (key : LooseText) : Prop :=
  ∃ field ∈ fields, (field.1.key? entries).map .plain = some key

def Unaliased (fields : List (FieldHead × Kind)) : Prop :=
  ∀ field ∈ fields, field.1.otherName = none

section Fields
variable {fields : List (FieldHead × Kind)} {field : FieldHead × Kind} {entries checked : Entries}
  {key : LooseText} {name : String}

theorem plain_injective : Function.Injective LooseText.plain := fun _ _ => LooseText.plain.inj

theorem keys_nodup : (keys fields).Nodup ↔ (names fields).Nodup :=
  List.nodup_map_iff plain_injective

theorem mem_keys : .plain name ∈ keys fields ↔ name ∈ names fields :=
  List.mem_map_of_injective plain_injective

theorem readFields_cons (field : FieldHead × Kind) (rest : List (FieldHead × Kind)) :
    readFields (field :: rest) entries =
      match both (readField field entries) (readFields rest entries) with
      | .ok (value, rest) => .ok ((.plain field.1.name, value) :: rest)
      | .error issues => .error issues := rfl

theorem readFields_iff :
    readFields fields entries = .ok checked ↔ List.Forall₂ (Gives entries) fields checked := by
  induction fields generalizing checked with
  | nil => simp [readFields, eq_comm]
  | cons field rest ih =>
      rw [readFields_cons, List.forall₂_cons_left_iff]
      constructor
      · intro good
        split at good
        · next value others together =>
            obtain ⟨first, tail⟩ := both_ok.mp together
            cases good
            exact ⟨_, others, ⟨rfl, first⟩, ih.mp tail, rfl⟩
        · simp at good
      · rintro ⟨⟨name, value⟩, others, ⟨rfl, first⟩, tail, rfl⟩
        rw [both_ok.mpr ⟨first, ih.mpr tail⟩]

theorem readField_iff (plain : field.1.otherName = none) {value : Datum} :
    readField field entries = .ok value ↔
      (∃ given, entries.lookup (.plain field.1.name) = some given ∧
          field.2.read given = .ok value) ∨
        entries.lookup (.plain field.1.name) = none ∧ field.1.fallback = some value := by
  simp only [readField, FieldHead.key?, plain]
  cases found : entries.lookup (.plain field.1.name) with
  | some given => simp [found, within_ok]
  | none => cases field.1.fallback <;> simp

-- The value of a field is what its kind makes of something, or its default.
theorem readField_cases {value : Datum} (read : readField field entries = .ok value) :
    (∃ given, field.2.read given = .ok value) ∨ field.1.fallback = some value := by
  simp only [readField] at read
  split at read
  case h_1 => exact .inl ⟨_, within_ok.mp read⟩
  case h_2 =>
    split at read
    case h_1 fallback found =>
      cases read
      exact .inr found
    case h_2 => contradiction

theorem used_iff_mem : Used fields entries key ↔
    key ∈ (fields.filterMap fun field => field.1.key? entries).map .plain := by
  rw [List.map_filterMap, List.mem_filterMap]
  rfl

theorem used_cons {rest : List (FieldHead × Kind)} : Used (field :: rest) entries key ↔
    (field.1.key? entries).map .plain = some key ∨ Used rest entries key := by
  simp [Used]

theorem unaliased_used (plain : Unaliased fields) :
    Used fields entries key ↔ (entries.lookup key).isSome = true ∧ key ∈ keys fields := by
  rw [keys, names, List.map_map, List.mem_map]
  constructor
  · rintro ⟨field, declared, used⟩
    obtain ⟨name, found, same⟩ := Option.map_eq_some_iff.mp used
    simp only [FieldHead.key?, plain field declared, Option.ite_none_right_eq_some,
      Option.some.injEq] at found
    obtain ⟨present, rfl⟩ := found
    subst same
    exact ⟨present, field, declared, rfl⟩
  · rintro ⟨present, field, declared, rfl⟩
    refine ⟨field, declared, ?_⟩
    simp only [FieldHead.key?, plain field declared, Function.comp_apply] at present ⊢
    rw [if_pos present, Option.map_some]

theorem extras_eq (plain : Unaliased fields) :
    extras fields entries = entries.filter fun entry => entry.1 ∉ keys fields := by
  rw [extras]
  apply List.filter_congr
  intro entry member
  have present : (entries.lookup entry.1).isSome = true :=
    Keyed.lookup_isSome.mpr (List.mem_map.mpr ⟨entry, member, rfl⟩)
  have used : entry.1 ∈ (fields.filterMap fun field => field.1.key? entries).map .plain ↔
      entry.1 ∈ keys fields := by
    rw [← used_iff_mem, unaliased_used plain, and_iff_right present]
  simp [used]

theorem gives_cons {rest : List (FieldHead × Kind)}
    (made : List.Forall₂ (Gives entries) (field :: rest) checked) :
    ∃ value others, readField field entries = .ok value ∧
      List.Forall₂ (Gives entries) rest others ∧
        checked = (.plain field.1.name, value) :: others := by
  obtain ⟨⟨name, value⟩, others, ⟨named, read⟩, tail, rfl⟩ := List.forall₂_cons_left_iff.mp made
  cases named
  exact ⟨value, others, read, tail, rfl⟩

theorem names_checked (given : List.Forall₂ (Gives entries) fields checked) :
    checked.map Prod.fst = keys fields := by
  induction given with
  | nil => rfl
  | cons first rest ih => simp [keys, names, ih, first.1]

theorem field_found (apart : (names fields).Nodup)
    (given : List.Forall₂ (Gives entries) fields checked) (declared : field ∈ fields) :
    ∃ value, checked.lookup (.plain field.1.name) = some value ∧
      readField field entries = .ok value := by
  induction given with
  | nil => contradiction
  | @cons first entry rest others made tail ih =>
      obtain ⟨name, value⟩ := entry
      obtain ⟨named, read⟩ := made
      dsimp only at named read
      subst named
      rw [names, List.map_cons, List.nodup_cons] at apart
      rw [Keyed.lookup_cons]
      rcases List.mem_cons.mp declared with rfl | later
      · exact ⟨value, if_pos rfl, read⟩
      · have other : LooseText.plain field.1.name ≠ .plain first.1.name := by
          intro same
          exact apart.1 (plain_injective same ▸ List.mem_map.mpr ⟨field, later, rfl⟩)
        rw [if_neg other]
        exact ih apart.2 later

end Fields

section Models
variable {isOpen : Bool} {fields : List (FieldHead × Kind)} {value result : Datum}

theorem whole_iff {entries : Entries} :
    entries.any (fun entry => entry.1.isRagged) = false ↔ Whole entries := by
  simp [Whole]

theorem model_read_iff :
    (Kind.model isOpen fields).read value = .ok result ↔
      ∃ entries checked, value = .mapping entries ∧ (isOpen = true → Whole entries) ∧
        List.Forall₂ (Gives entries) fields checked ∧
        result = .record checked (if isOpen then extras fields entries else []) := by
  cases value with
  | mapping entries =>
      rw [Kind.read]
      split
      case isTrue broken =>
        simp only [Bool.and_eq_true] at broken
        refine ⟨by simp [fail], ?_⟩
        rintro ⟨_, _, ⟨⟩, whole, _⟩
        rw [whole_iff.mpr (whole broken.1)] at broken
        exact absurd broken.2 Bool.false_ne_true
      case isFalse fits =>
        have whole : isOpen = true → Whole entries := by
          intro further
          rw [← whole_iff]
          simpa [further] using fits
        rw [Fallible.map_ok]
        simp only [readFields_iff, Datum.mapping.injEq]
        constructor
        · rintro ⟨checked, given, rfl⟩
          exact ⟨entries, checked, rfl, whole, given, rfl⟩
        · rintro ⟨_, checked, rfl, _, given, rfl⟩
          exact ⟨checked, given, rfl⟩
  | _ => simp [Kind.read, fail]

theorem optional_read (kind : Kind) (value : Datum) :
    (Kind.optional kind).read value = if value.isNull then .ok .null else kind.read value := by
  cases value <;> simp [Kind.read, Datum.isNull]

theorem list_reads_list {item : Kind} (read : (Kind.list item).read value = .ok result) :
    ∃ items, value = .list items := by
  cases value with
  | list items => exact ⟨items, rfl⟩
  | _ => simp [Kind.read, fail] at read

end Models

section Structured
variable {fields : List (FieldHead × Kind)} {members : Members} {checked kept : Entries}
  {name : String} {kind : Kind} {item : Json} {result : Datum}

def given (members : Members) (name : String) : Json :=
  (members.lookup (.plain name)).getD .null

def undeclared (declared : List LooseText) (members : Members) : Members :=
  members.filter fun member => member.1 ∉ declared

theorem extras_members (plain : Unaliased fields) :
    extras fields (Datum.ofMembers members) =
      Datum.ofMembers (undeclared (keys fields) members) := by
  rw [extras_eq plain, Datum.ofMembers_eq_map, Datum.ofMembers_eq_map, undeclared, List.filter_map]
  rfl

-- A default that is itself structured can as well have been given.
theorem defaulted_read (fallback : Json)
    (passes : kind.read (Datum.ofJson fallback) = .ok (Datum.ofJson fallback)) :
    readField (defaulted name (Datum.ofJson fallback) kind) (Datum.ofMembers members) =
        .ok result ↔
      kind.read (Datum.ofJson ((members.lookup (.plain name)).getD fallback)) = .ok result := by
  rw [readField_iff rfl]
  simp only [defaulted, Datum.lookup_ofMembers]
  cases members.lookup (.plain name) with
  | some given => simp
  | none => simp [passes]

theorem nullable_read :
    readField (nullable name kind) (Datum.ofMembers members) = .ok result ↔
      (Kind.optional kind).read (Datum.ofJson (given members name)) = .ok result :=
  defaulted_read .null (by simp [Datum.ofJson, Kind.read])

-- A nullable field is what its kind has read from what was given.
theorem nullable_found (apart : (names fields).Nodup)
    (made : List.Forall₂ (Gives (Datum.ofMembers members)) fields checked)
    (declared : nullable name kind ∈ fields) :
    (Kind.optional kind).read (Datum.ofJson (given members name)) =
      .ok ((Datum.record checked kept).field name) := by
  obtain ⟨value, found, read⟩ := field_found apart made declared
  have same : (Datum.record checked kept).field name = value := by
    rw [Datum.field]
    exact congrArg (Option.getD · .null) found
  rw [same]
  exact nullable_read.mp read

theorem whole_ofMembers : Whole (Datum.ofMembers members) ↔ Whole members := by
  rw [Whole, Datum.ofMembers_eq_map, List.forall_mem_map]
  exact Iff.rfl

-- What an open model makes of a structured value.
theorem Model.readJson_iff {model : Model} (further : model.isOpen = true)
    (plain : Unaliased model.fields) :
    model.readJson item = .ok result ↔
      ∃ members checked, item = .object members ∧ Whole members ∧
        List.Forall₂ (Gives (Datum.ofMembers members)) model.fields checked ∧
        result = .record checked (Datum.ofMembers (undeclared (keys model.fields) members)) := by
  rw [Model.readJson, Model.read, Model.kind, model_read_iff, further]
  simp only [↓reduceIte, forall_const]
  constructor
  · rintro ⟨entries, checked, same, whole, given, rfl⟩
    cases item with
    | object members =>
        cases same
        rw [extras_members plain]
        exact ⟨members, checked, rfl, whole_ofMembers.mp whole, given, rfl⟩
    | _ => cases same
  · rintro ⟨members, checked, rfl, whole, given, rfl⟩
    rw [← extras_members plain]
    exact ⟨Datum.ofMembers members, checked, rfl, whole_ofMembers.mpr whole, given, rfl⟩

theorem optional_read_json
    (read : (Kind.optional kind).read (Datum.ofJson item) = .ok result) :
    item = .null ∧ result = .null ∨ kind.read (Datum.ofJson item) = .ok result := by
  rw [optional_read] at read
  split at read
  case isTrue absent =>
    cases item with
    | null => exact .inl ⟨rfl, (Except.ok.inj read).symm⟩
    | _ => contradiction
  case isFalse => exact .inr read

theorem text_read_iff :
    Kind.text.read (Datum.ofJson item) = .ok result ↔
      ∃ t, item = .string t ∧ result = .text t := by
  cases item <;> simp [Datum.ofJson, Kind.read, fail, eq_comm]

-- Text is taken as it is, and so is its absence.
theorem optional_text (read : (Kind.optional .text).read (Datum.ofJson item) = .ok result) :
    result = Datum.ofJson item := by
  rcases optional_read_json read with ⟨rfl, rfl⟩ | present
  · rfl
  · obtain ⟨t, rfl, rfl⟩ := text_read_iff.mp present
    rfl

theorem list_read_json (read : (Kind.list kind).read (Datum.ofJson item) = .ok result) :
    ∃ items values, item = .array items ∧ result = .list values ∧
      List.Forall₂ (fun item value => kind.read (Datum.ofJson item) = .ok value) items values := by
  cases item with
  | array items =>
      rw [Datum.ofJson, list_read_iff, ofItems_eq_map] at read
      obtain ⟨values, rfl, each⟩ := read
      exact ⟨items, values, rfl, rfl, List.forall₂_map_left_iff.mp each⟩
  | _ => simp [Datum.ofJson, Kind.read, fail] at read

end Structured

end TenantApi.Schema
