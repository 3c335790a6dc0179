import TenantApi.Proofs.SchemaRoundTrip
import TenantApi.Resource.Passwordless

/-!
What answers of passwordless sign-in hold. Their identifier is looked up under another name before
its own. When both names are there, what stands under its own name is read by no field, so it is
kept as a further member and takes the place of the identifier in the view. Every other name stands
for one value.
-/

namespace TenantApi

namespace Schema

section Keys
variable {fields : List (FieldHead × Kind)} {entries kept : Entries} {key : LooseText}
  {name other : String} {kind : Kind} {members : Members} {result : Datum}

theorem extras_used (used : Used fields entries key) :
    (extras fields entries).lookup key = none := by
  rw [extras, Keyed.lookup_filter fun key => !((fields.filterMap _).map _).contains key]
  have among := List.contains_iff_mem.mpr (used_iff_mem.mp used)
  exact if_neg (by simp only [among, Bool.not_true, Bool.false_eq_true, not_false_eq_true])

theorem extras_unused (unused : ¬Used fields entries key) :
    (extras fields entries).lookup key = entries.lookup key := by
  rw [used_iff_mem] at unused
  rw [extras, Keyed.lookup_filter fun key => !((fields.filterMap _).map _).contains key]
  exact if_pos (by simpa using unused)

theorem extras_nodup (distinct : (entries.map Prod.fst).Nodup) :
    ((extras fields entries).map Prod.fst).Nodup :=
  distinct.sublist (List.filter_sublist.map Prod.fst)

-- Further members come after the fields, so they take the place of a field of their name.
theorem view_lookup (checked : Entries) (distinct : (kept.map Prod.fst).Nodup) :
    ∃ shown, (Datum.record checked kept).view = .mapping shown ∧
      ∀ key, shown.lookup key = ((kept.lookup key).or (checked.lookup key)).map Datum.view := by
  refine ⟨_, rfl, fun key => ?_⟩
  have apart : ((Datum.viewEntries kept).map Prod.fst).Nodup := by
    rwa [Datum.viewEntries_eq_map, List.map_map]
  rw [Datum.insertAll_eq, Keyed.lookup_putAll, Keyed.lookup_reverse apart,
    Datum.viewEntries_eq_map, Datum.viewEntries_eq_map, Keyed.lookup_map, Keyed.lookup_map,
    Option.map_or]

theorem renamed_key {head : FieldHead} (renamed : head.otherName = some other) :
    (head.key? entries).map .plain = some key ↔
      (entries.lookup key).isSome = true ∧
        (key = .plain other ∨
          key = .plain head.name ∧ ¬(entries.lookup (.plain other)).isSome = true) := by
  simp only [FieldHead.key?, renamed]
  by_cases named : (entries.lookup (.plain other)).isSome = true
  · rw [if_pos named, Option.map_some, Option.some.injEq]
    constructor
    · rintro rfl
      exact ⟨named, .inl rfl⟩
    · rintro ⟨_, rfl | ⟨_, unnamed⟩⟩
      · rfl
      · exact absurd named unnamed
  · rw [if_neg named, Option.map_eq_some_iff]
    simp only [Option.ite_none_right_eq_some, Option.some.injEq]
    constructor
    · rintro ⟨_, ⟨present, rfl⟩, rfl⟩
      exact ⟨present, .inr ⟨rfl, named⟩⟩
    · rintro ⟨present, rfl | ⟨rfl, _⟩⟩
      · exact absurd present named
      · exact ⟨_, ⟨present, rfl⟩, rfl⟩

theorem aliased_read :
    readField (aliased name other kind) (Datum.ofMembers members) = .ok result ↔
      (Kind.optional kind).read (Datum.ofJson (((members.lookup (.plain other)).or
        (members.lookup (.plain name))).getD .null)) = .ok result := by
  simp only [readField, aliased, FieldHead.key?, Datum.lookup_ofMembers]
  cases first : members.lookup (.plain other) with
  | some value => simp [within_ok, first]
  | none =>
      cases second : members.lookup (.plain name) with
      | some value => simp [within_ok, second]
      | none => simp [Datum.ofJson, Kind.read]

end Keys

end Schema

namespace Resource

open Schema

def signInAnswers : List Model := [passwordlessEmailResponse, passwordlessSmsResponse]

def IsOptionalScalar (field : FieldHead × Kind) : Prop :=
  field.1.fallback = some .null ∧ field.2 ∈ ([.optional .text, .optional .truth] : List Kind)

/-- An open model of optional scalars, of which the identifier alone has another name. -/
structure Identified (model : Model) (rest : List (FieldHead × Kind)) : Prop where
  isOpen : model.isOpen = true
  fields : model.fields = aliased "id" "_id" .text :: rest
  plain : Unaliased rest
  apart : (names model.fields).Nodup
  otherName : "_id" ∉ names model.fields
  scalars : ∀ field ∈ model.fields, IsOptionalScalar field

def identifier (members : Members) : Json :=
  ((members.lookup (.plain "_id")).or (members.lookup (.plain "id"))).getD .null

mutual

theorem plainJson_ofJson : (value : Json) → plainJson (Datum.ofJson value) = value
  | .array items => by rw [Datum.ofJson, plainJson, plainItems_ofItems items]
  | .object members => by rw [Datum.ofJson, plainJson, plainEntries_ofMembers members]
  | .null | .bool _ | .int _ | .float _ | .string _ => rfl

theorem plainItems_ofItems : (items : List Json) → plainItems (Datum.ofItems items) = items
  | [] => rfl
  | item :: rest => by
      rw [Datum.ofItems, plainItems, plainJson_ofJson item, plainItems_ofItems rest]

theorem plainEntries_ofMembers :
    (members : Members) → plainEntries (Datum.ofMembers members) = members
  | [] => rfl
  | (key, value) :: rest => by
      rw [Datum.ofMembers, plainEntries, plainJson_ofJson value, plainEntries_ofMembers rest]

end

theorem ofJson_injective {value other : Json} (same : Datum.ofJson value = Datum.ofJson other) :
    value = other := by
  rw [← plainJson_ofJson value, same, plainJson_ofJson]

section Answers
variable {model : Model} {rest : List (FieldHead × Kind)} {members : Members} {entries : Entries}
  {key : LooseText} {name : String}

theorem answers_identified (listed : model ∈ signInAnswers) : ∃ rest, Identified model rest := by
  rcases List.mem_pair.mp listed with rfl | rfl
  · refine ⟨_, rfl, rfl, ?_, ?_, ?_, ?_⟩
    · simp [Unaliased, nullable]
    · decide
    · decide
    · simp [passwordlessEmailResponse, aliased, nullable, IsOptionalScalar]
  · refine ⟨_, rfl, rfl, ?_, ?_, ?_, ?_⟩
    · simp [Unaliased, nullable]
    · decide
    · decide
    · simp [passwordlessSmsResponse, aliased, nullable, IsOptionalScalar]

theorem scalar_view {field : FieldHead × Kind} {value : Datum} (scalar : IsOptionalScalar field)
    (read : readField field entries = .ok value) : value.view = value := by
  obtain ⟨absent, kinds⟩ := scalar
  rcases readField_cases read with ⟨given, read⟩ | same
  · rcases List.mem_pair.mp kinds with text | truth
    · rw [text, optional_read] at read
      split at read
      case isTrue => cases read; rfl
      case isFalse =>
        obtain ⟨t, rfl⟩ := text_result read
        rfl
    · rw [truth, optional_read] at read
      split at read
      case isTrue => cases read; rfl
      case isFalse =>
        obtain ⟨b, rfl⟩ := truth_result (by rwa [Kind.read] at read)
        rfl
  · cases absent.symm.trans same
    rfl

theorem Identified.used_iff (identified : Identified model rest) :
    Used model.fields entries key ↔
      (entries.lookup key).isSome = true ∧ (key = .plain "_id" ∨ key ∈ keys model.fields ∧
        ¬(key = .plain "id" ∧ (entries.lookup (.plain "_id")).isSome = true)) := by
  have outside : .plain "id" ∉ keys rest := by
    have apart := keys_nodup.mpr identified.apart
    rw [identified.fields] at apart
    exact (List.nodup_cons.mp apart).1
  have all : keys model.fields = .plain "id" :: keys rest := by
    rw [identified.fields]
    rfl
  rw [all, identified.fields, used_cons, renamed_key rfl, unaliased_used identified.plain,
    List.mem_cons]
  constructor
  · rintro (⟨present, rfl | ⟨rfl, unnamed⟩⟩ | ⟨present, declared⟩)
    · exact ⟨present, .inl rfl⟩
    · exact ⟨present, .inr ⟨.inl rfl, fun both => unnamed both.2⟩⟩
    · exact ⟨present, .inr ⟨.inr declared, fun both => outside (both.1 ▸ declared)⟩⟩
  · rintro ⟨present, rfl | ⟨rfl | declared, single⟩⟩
    · exact .inl ⟨present, .inl rfl⟩
    · exact .inl ⟨present, .inr ⟨rfl, fun named => single ⟨rfl, named⟩⟩⟩
    · exact .inr ⟨present, declared⟩

-- Of the declared names only that of the identifier can be left over, when it was not read.
theorem Identified.extras_declared (identified : Identified model rest)
    (declared : name ∈ names model.fields) :
    (extras model.fields (Datum.ofMembers members)).lookup (.plain name) =
      if name = "id" ∧ (members.lookup (.plain "_id")).isSome = true then
        (members.lookup (.plain "id")).map Datum.ofJson else none := by
  have present : ((Datum.ofMembers members).lookup (.plain "_id")).isSome =
      (members.lookup (.plain "_id")).isSome := by
    rw [Datum.lookup_ofMembers, Option.isSome_map]
  by_cases used : Used model.fields (Datum.ofMembers members) (.plain name)
  · rw [extras_used used]
    rw [identified.used_iff, LooseText.plain.injEq, LooseText.plain.injEq, present] at used
    obtain ⟨_, rfl | ⟨_, single⟩⟩ := used
    · exact absurd declared identified.otherName
    · rw [if_neg single]
  · rw [extras_unused used]
    rw [identified.used_iff, LooseText.plain.injEq, LooseText.plain.injEq, present,
      mem_keys] at used
    by_cases both : name = "id" ∧ (members.lookup (.plain "_id")).isSome = true
    · rw [if_pos both, both.1, Datum.lookup_ofMembers]
    · rw [if_neg both]
      have absent : ¬((Datum.ofMembers members).lookup (.plain name)).isSome = true :=
        fun present => used ⟨present, .inr ⟨declared, both⟩⟩
      exact Option.not_isSome_iff_eq_none.mp absent

theorem Identified.declares (identified : Identified model rest) : "id" ∈ names model.fields := by
  rw [identified.fields]
  exact List.mem_cons_self

theorem Identified.undeclared_iff (identified : Identified model rest) :
    (∀ name ∈ names model.fields,
        .plain name ∉ (extras model.fields (Datum.ofMembers members)).map Prod.fst) ↔
      ¬(.plain "_id" ∈ members.map Prod.fst ∧ .plain "id" ∈ members.map Prod.fst) := by
  simp only [← Keyed.lookup_isSome]
  constructor
  · rintro free ⟨other, own⟩
    refine free "id" identified.declares ?_
    rw [identified.extras_declared identified.declares, if_pos ⟨rfl, other⟩, Option.isSome_map]
    exact own
  · intro single name declared left
    rw [identified.extras_declared declared] at left
    split at left
    case isTrue renamed => exact single ⟨renamed.2, by simpa using left⟩
    case isFalse => contradiction

/-- What comes of an answer: a record of the declared fields and of all members that no field is
read from, and a view that shows these members. -/
structure Holds (model : Model) (members : Members) (answer : Datum) (kept shown : Entries) :
    Prop where
  record : ∃ checked, answer = .record checked kept ∧ checked.map Prod.fst = keys model.fields
  view : answer.view = .mapping shown
  fields : ∀ field ∈ model.fields,
    readField field (Datum.ofMembers members) = .ok (answer.field field.1.name)
  used : ∀ key, Used model.fields (Datum.ofMembers members) key → kept.lookup key = none
  unused : ∀ key, ¬Used model.fields (Datum.ofMembers members) key →
    kept.lookup key = (members.lookup key).map Datum.ofJson
  unusedShown : ∀ key value, ¬Used model.fields (Datum.ofMembers members) key →
    members.lookup key = some value → shown.lookup key = some (Datum.ofJson value)

variable {answer : Datum}

theorem Identified.holds (identified : Identified model rest)
    (distinct : (members.map Prod.fst).Nodup)
    (read : model.readJson (.object members) = .ok answer) :
    ∃ shown, Holds model members answer (extras model.fields (Datum.ofMembers members)) shown ∧
      ∀ name ∈ names model.fields, shown.lookup (.plain name) =
        (((extras model.fields (Datum.ofMembers members)).lookup (.plain name)).map Datum.view).or
          (some (answer.field name)) := by
  obtain ⟨_, checked, same, _, made, rfl⟩ := model_read_iff.mp read
  cases same
  rw [identified.isOpen, if_pos rfl]
  have found : ∀ field ∈ model.fields, ∃ value, checked.lookup (.plain field.1.name) = some value ∧
      readField field (Datum.ofMembers members) = .ok value :=
    fun field declared => field_found identified.apart made declared
  have keys : ((Datum.ofMembers members).map Prod.fst).Nodup := by
    rwa [Datum.ofMembers_eq_map, List.map_map]
  obtain ⟨shown, view, lookup⟩ := view_lookup checked (extras_nodup keys)
  have unused (key : LooseText) (free : ¬Used model.fields (Datum.ofMembers members) key) :
      (extras model.fields (Datum.ofMembers members)).lookup key =
        (members.lookup key).map Datum.ofJson := by
    rw [extras_unused free, Datum.lookup_ofMembers]
  refine ⟨shown, ⟨⟨checked, rfl, names_checked made⟩, view, ?fields, fun _ => extras_used, unused,
    ?unusedShown⟩, ?declared⟩
  case fields =>
    intro field declared
    obtain ⟨value, stored, good⟩ := found field declared
    rw [Datum.field, stored]
    exact good
  case unusedShown =>
    intro key value free given
    rw [lookup, unused key free, given]
    exact congrArg some (Datum.view_ofJson value)
  case declared =>
    intro name declared
    obtain ⟨field, among, rfl⟩ := List.mem_map.mp declared
    obtain ⟨value, stored, good⟩ := found field among
    rw [lookup, Datum.field, stored, Option.map_or, Option.map_some,
      scalar_view (identified.scalars field among) good]
    rfl

theorem Identified.identifier_found (identified : Identified model rest)
    (holds : ∀ field ∈ model.fields,
      readField field (Datum.ofMembers members) = .ok (answer.field field.1.name)) :
    answer.field "id" = Datum.ofJson (identifier members) := by
  have declared : aliased "id" "_id" .text ∈ model.fields := by
    rw [identified.fields]
    exact List.mem_cons_self
  exact optional_text (aliased_read.mp (holds _ declared))

theorem Identified.shown_iff {shown : Entries} (identified : Identified model rest)
    (found : answer.field "id" = Datum.ofJson (identifier members))
    (lookup : ∀ name ∈ names model.fields, shown.lookup (.plain name) =
      (((extras model.fields (Datum.ofMembers members)).lookup (.plain name)).map Datum.view).or
        (some (answer.field name))) :
    (∀ name ∈ names model.fields, shown.lookup (.plain name) = some (answer.field name)) ↔
      ∀ value other, members.lookup (.plain "_id") = some value →
        members.lookup (.plain "id") = some other → other = value := by
  constructor
  · intro shows value other named own
    have first := lookup "id" identified.declares
    rw [shows "id" identified.declares, identified.extras_declared identified.declares,
      if_pos ⟨rfl, by simp [named]⟩, own, found, identifier, named] at first
    simp only [Option.map_some, Option.some_or, Option.getD_some, Datum.view_ofJson,
      Option.some.injEq] at first
    exact ofJson_injective first.symm
  · intro agree name declared
    rw [lookup name declared, identified.extras_declared declared]
    split
    case isFalse => rfl
    case isTrue renamed =>
      obtain ⟨rfl, other⟩ := renamed
      obtain ⟨value, named⟩ := Option.isSome_iff_exists.mp other
      cases own : members.lookup (.plain "id") with
      | none => rfl
      | some other =>
          rw [agree value other named own, found, identifier, named]
          exact congrArg some (Datum.view_ofJson value)

/-- The identifier is what stands under its other name, else under its own; every field has the
value that was read for it, and every member that no field is read from is kept and shown as it
came. A kept member has the name of a field just when both names of the identifier are there, and
the view shows all fields unless they are there with different values. -/
theorem answer_unambiguous_iff (listed : model ∈ signInAnswers)
    (distinct : (members.map Prod.fst).Nodup)
    (read : model.readJson (.object members) = .ok answer) :
    answer.field "id" = Datum.ofJson (identifier members) ∧
      ∃ kept shown, Holds model members answer kept shown ∧
        ((∀ name ∈ names model.fields, .plain name ∉ kept.map Prod.fst) ↔
          ¬(.plain "_id" ∈ members.map Prod.fst ∧ .plain "id" ∈ members.map Prod.fst)) ∧
        ((∀ name ∈ names model.fields, shown.lookup (.plain name) = some (answer.field name)) ↔
          ∀ value other, members.lookup (.plain "_id") = some value →
            members.lookup (.plain "id") = some other → other = value) := by
  obtain ⟨rest, identified⟩ := answers_identified listed
  obtain ⟨shown, holds, declared⟩ := identified.holds distinct read
  have found := identified.identifier_found holds.fields
  exact ⟨found, _, shown, holds, identified.undeclared_iff, identified.shown_iff found declared⟩

def renamedAnswer : Members :=
  [("_id", .string "a"), ("email_verified", .string "no"), ("note", .array [.null])]

theorem answer_unambiguous_iff_renamed :
    ∃ answer, passwordlessEmailResponse.readJson (.object renamedAnswer) = .ok answer ∧
      answer.field "id" = .text "a" ∧ ∃ kept shown,
        Holds passwordlessEmailResponse renamedAnswer answer kept shown ∧
          ∀ name ∈ ["id", "email", "email_verified"],
            shown.lookup (.plain name) = some (answer.field name) := by
  have read : passwordlessEmailResponse.readJson (.object renamedAnswer) =
      .ok (.record [("id", .text "a"), ("email", .null), ("email_verified", .bool false)]
        [("note", .list [.null])]) := by rfl
  obtain ⟨identifier, kept, shown, holds, _, shows⟩ :=
    answer_unambiguous_iff List.mem_cons_self (by decide) read
  refine ⟨_, read, identifier, kept, shown, holds, shows.mpr ?_⟩
  intro value other _ own
  contradiction

def doubleAnswer : Members := [("_id", .string "a"), ("id", .string "b")]

theorem own_name_shadows :
    ∃ answer kept shown, passwordlessEmailResponse.readJson (.object doubleAnswer) = .ok answer ∧
      answer = .record [("id", .text "a"), ("email", .null), ("email_verified", .null)] kept ∧
      .plain "id" ∈ kept.map Prod.fst ∧ answer.view = .mapping shown ∧
      shown.lookup (.plain "id") = some (.text "b") :=
  ⟨_, [("id", .text "b")], _, rfl, rfl, by decide, rfl, rfl⟩

end Answers

end Resource

end TenantApi
