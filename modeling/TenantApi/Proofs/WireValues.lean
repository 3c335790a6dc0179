import TenantApi.Proofs.JsonPrinter
import TenantApi.Proofs.SchemaRecords
import TenantApi.Resource.Catalogue

/-!
Members of enumerations by their wire strings. A value is looked up by itself, or it is checked as a
field of a record. Both go by equality with a wire string, so they take the same values for the same
members; what one refuses, the other reports under the name of the field.
-/

namespace TenantApi

namespace WireEnum

section Lookup
variable {e : WireEnum} {wire : String} {value : Json} {member : Member} {unknown : Unknown}

theorem ofWire_none_iff : e.ofWire? wire = none ↔ ∀ member ∈ e.members, member.wire ≠ wire := by
  simp [ofWire?]

theorem ofWire_iff (apart : e.wires.Nodup) :
    e.ofWire? wire = some member ↔ member ∈ e.members ∧ member.wire = wire := by
  have sound {found : Member} (lookup : e.ofWire? wire = some found) :
      found ∈ e.members ∧ found.wire = wire := by
    rw [ofWire?] at lookup
    exact ⟨List.mem_of_find?_eq_some lookup, by simpa using List.find?_some lookup⟩
  constructor
  · exact sound
  · rintro ⟨listed, spelled⟩
    cases lookup : e.ofWire? wire with
    | none => exact absurd spelled (ofWire_none_iff.mp lookup member listed)
    | some found =>
        obtain ⟨foundListed, foundSpelled⟩ := sound lookup
        rw [List.inj_on_of_nodup_map apart foundListed listed (foundSpelled.trans spelled.symm)]

theorem ofJson_plain : e.ofJson (.string (.plain wire)) =
    match e.ofWire? wire with
    | some member => .ok member
    | none => .error ⟨.string (.plain wire), e⟩ := rfl

theorem ofJson_iff (apart : e.wires.Nodup) :
    e.ofJson value = .ok member ↔ member ∈ e.members ∧ value = .string member.wire := by
  match value with
  | .string (.plain wire) =>
      rw [Json.string.injEq, LooseText.plain.injEq, @eq_comm _ wire, ← ofWire_iff apart,
        ofJson_plain]
      cases e.ofWire? wire <;> simp
  | .string (.ragged _) | .null | .bool _ | .int _ | .float _ | .array _ | .object _ =>
      simp [ofJson]

theorem ofJson_error_iff :
    e.ofJson value = .error unknown ↔
      (∀ member ∈ e.members, value ≠ .string member.wire) ∧ unknown = ⟨value, e⟩ := by
  match value with
  | .string (.plain wire) =>
      simp only [ne_eq, Json.string.injEq, LooseText.plain.injEq, @eq_comm _ wire]
      rw [← ofWire_none_iff, ofJson_plain]
      cases e.ofWire? wire <;> simp [eq_comm]
  | .string (.ragged _) | .null | .bool _ | .int _ | .float _ | .array _ | .object _ =>
      simp [ofJson, eq_comm]

theorem message_eq (unknown : Unknown) : unknown.message =
    match unknown.value.quotedText? with
    | some shown => shown ++ " is not a valid " ++ unknown.enum.name ++ "; expected one of: " ++
        String.intercalate ", " (unknown.enum.members.map Member.wire)
    | none => Decimal.unwritableText := rfl

end Lookup

end WireEnum

namespace Schema

def Kind.enum? : Kind → Option WireEnum
  | .choice e => some e
  | .optional kind => kind.enum?
  | _ => none

def issuesOf {α : Type} : Except (List Issue) α → List Issue
  | .ok _ => []
  | .error issues => issues

section Reporting
variable {fields : List (FieldHead × Kind)} {field : FieldHead × Kind} {entries : Entries}
  {issue : Issue}

theorem issuesOf_both {α β : Type} (first : Except (List Issue) α)
    (second : Except (List Issue) β) :
    issuesOf (both first second) = issuesOf first ++ issuesOf second := by
  cases first <;> cases second <;> simp [both, issuesOf]

-- No field hides the issues of another.
theorem issuesOf_readFields (fields : List (FieldHead × Kind)) (entries : Entries) :
    issuesOf (readFields fields entries) =
      fields.flatMap fun field => issuesOf (readField field entries) := by
  induction fields with
  | nil => rfl
  | cons field rest ih =>
      rw [List.flatMap_cons, ← ih, ← issuesOf_both, readFields_cons]
      split
      · next together => rw [together]; rfl
      · next together => rw [together]; rfl

theorem readField_head (plain : field.1.otherName = none)
    (reported : issue ∈ issuesOf (readField field entries)) :
    issue.path.head? = some (.key field.1.name) := by
  simp only [readField, FieldHead.key?, plain] at reported
  split at reported
  case h_1 key found =>
    obtain ⟨_, same⟩ := Option.ite_none_right_eq_some.mp found
    cases same
    cases read : field.2.read ((entries.lookup (.plain field.1.name)).getD .null) with
    | ok value => simp [read, within, Except.mapError, issuesOf] at reported
    | error inner =>
        simp only [read, within, Except.mapError, issuesOf] at reported
        obtain ⟨first, _, rfl⟩ := List.mem_map.mp reported
        rfl
  case h_2 =>
    split at reported
    case h_1 => contradiction
    case h_2 =>
      rw [List.mem_singleton.mp reported]
      rfl

-- Issues under the name of a field are its own.
theorem reported_iff (entries : Entries) (plain : Unaliased fields) (apart : (names fields).Nodup)
    (declared : field ∈ fields) :
    (∃ issue ∈ issuesOf (readFields fields entries),
        issue.path.head? = some (.key field.1.name)) ↔
      issuesOf (readField field entries) ≠ [] := by
  rw [issuesOf_readFields]
  constructor
  · rintro ⟨issue, reported, head⟩
    obtain ⟨other, among, own⟩ := List.mem_flatMap.mp reported
    rw [readField_head (plain other among) own] at head
    have named : other.1.name = field.1.name := by simpa using head
    rw [List.inj_on_of_nodup_map apart among declared named] at own
    exact List.ne_nil_of_mem own
  · intro some
    obtain ⟨issue, own⟩ := List.exists_mem_of_ne_nil _ some
    exact ⟨issue, List.mem_flatMap.mpr ⟨field, declared, own⟩,
      readField_head (plain field declared) own⟩

end Reporting

def choiceProblem : Json → Problem
  | .string (.ragged _) => .brokenText
  | _ => .notMember

section Choices
variable {e : WireEnum} {value : Json}

theorem readChoice_json (e : WireEnum) (value : Json) :
    readChoice e (Datum.ofJson value) =
      match e.ofJson value with
      | .ok member => .ok (.choice member)
      | .error _ => fail (choiceProblem value) := by
  match value with
  | .string (.plain wire) =>
      simp only [Datum.ofJson, readChoice, WireEnum.ofJson]
      cases e.ofWire? wire <;> rfl
  | .string (.ragged _) | .null | .bool _ | .int _ | .float _ | .array _ | .object _ => rfl

theorem enum_read (present : value ≠ .null) : (kind : Kind) → (takes : kind.enum? = some e) →
    kind.read (Datum.ofJson value) =
      match e.ofJson value with
      | .ok member => .ok (.choice member)
      | .error _ => fail (choiceProblem value)
  | .choice _, takes => by
      cases takes
      rw [Kind.read]
      exact readChoice_json e value
  | .optional kind, takes => by
      have given : (Datum.ofJson value).isNull = false := by
        cases value with
        | null => contradiction
        | _ => rfl
      rw [optional_read, given, if_neg Bool.false_ne_true]
      exact enum_read present kind takes

variable {field : FieldHead × Kind} {members : Members}

theorem enum_field (plain : field.1.otherName = none) (takes : field.2.enum? = some e)
    (given : members.lookup (.plain field.1.name) = some value) (present : value ≠ .null) :
    readField field (Datum.ofMembers members) =
      match e.ofJson value with
      | .ok member => .ok (.choice member)
      | .error _ => .error [⟨choiceProblem value, [.key field.1.name]⟩] := by
  have found : (Datum.ofMembers members).lookup (.plain field.1.name) =
      some (Datum.ofJson value) := by
    rw [Datum.lookup_ofMembers, given]
    rfl
  simp only [readField, FieldHead.key?, plain, found, Option.isSome_some, ↓reduceIte,
    Option.getD_some, enum_read present field.2 takes]
  cases e.ofJson value <;> rfl

end Choices

end Schema

namespace Resource

open Schema

variable {model : Model} {field : FieldHead × Kind} {e : WireEnum}

theorem enums_apart (known : e ∈ WireEnum.all) : e.wires.Nodup := by
  have check : WireEnum.all.all (fun e => decide e.wires.Nodup) = true := by decide +kernel
  exact of_decide_eq_true (List.all_eq_true.mp check e known)

-- Only models without enumerations have fields with another name.
theorem enum_model (listed : model ∈ models) (declared : field ∈ model.fields)
    (takes : field.2.enum? = some e) :
    Unaliased model.fields ∧ (names model.fields).Nodup := by
  have check : models.all (fun model => model.fields.all (fun field => field.2.enum?.isNone) ||
      model.fields.all (fun field => field.1.otherName.isNone) &&
        decide (names model.fields).Nodup) = true := by
    decide +kernel
  have own := List.all_eq_true.mp check model listed
  simp only [Bool.or_eq_true, Bool.and_eq_true, List.all_eq_true, decide_eq_true_eq,
    Option.isNone_iff_eq_none] at own
  rcases own with none | plain
  · rw [none field declared] at takes
    contradiction
  · exact plain

/-- An open model looks at every key first: one with a half is all that is reported. -/
theorem readJson_issues {members : Members} {issues : List Issue}
    (failed : model.readJson (.object members) = .error issues) :
    issues = [⟨.brokenText, []⟩] ∧ ¬Whole members ∨
      issues = issuesOf (readFields model.fields (Datum.ofMembers members)) := by
  rw [Model.readJson, Model.read, Model.kind, Datum.ofJson, Kind.read] at failed
  split at failed
  case isTrue broken =>
    refine .inl ⟨(Except.error.inj failed).symm, fun whole => ?_⟩
    rw [Bool.and_eq_true, whole_iff.mpr (whole_ofMembers.mpr whole)] at broken
    exact Bool.false_ne_true broken.2
  case isFalse =>
    rw [Fallible.map_error] at failed
    exact .inr (by rw [failed, issuesOf])

section Fields
variable {value : Json} {members : Members} {answer : Datum} {issues : List Issue}

theorem enum_accepted (listed : model ∈ models) (declared : field ∈ model.fields)
    (takes : field.2.enum? = some e) (given : members.lookup (.plain field.1.name) = some value)
    (present : value ≠ .null) (read : model.readJson (.object members) = .ok answer) :
    ∃ member, e.ofJson value = .ok member ∧ answer.field field.1.name = .choice member := by
  obtain ⟨plain, apart⟩ := enum_model listed declared takes
  obtain ⟨_, checked, same, _, made, rfl⟩ := model_read_iff.mp read
  cases same
  obtain ⟨datum, stored, own⟩ := field_found apart made declared
  rw [enum_field (plain field declared) takes given present] at own
  cases looked : e.ofJson value with
  | error unknown => simp [looked] at own
  | ok member =>
      simp only [looked, Except.ok.injEq] at own
      refine ⟨member, rfl, ?_⟩
      rw [Datum.field, stored, ← own]
      rfl

theorem enum_reported (listed : model ∈ models) (declared : field ∈ model.fields)
    (takes : field.2.enum? = some e) (given : members.lookup (.plain field.1.name) = some value)
    (present : value ≠ .null) (failed : model.readJson (.object members) = .error issues) :
    issues = [⟨.brokenText, []⟩] ∧ ¬Whole members ∨
      ((∃ member, e.ofJson value = .ok member) ↔
          ∀ issue ∈ issues, issue.path.head? ≠ some (.key field.1.name)) ∧
        ((∃ unknown, e.ofJson value = .error unknown) ↔
          ⟨choiceProblem value, [.key field.1.name]⟩ ∈ issues) := by
  refine (readJson_issues failed).imp_right fun collects => ?_
  obtain ⟨plain, apart⟩ := enum_model listed declared takes
  have reported := reported_iff (Datum.ofMembers members) plain apart declared
  have collected : issuesOf (readField field (Datum.ofMembers members)) ⊆ issues := by
    rw [collects, issuesOf_readFields]
    exact fun issue found => List.mem_flatMap.mpr ⟨field, declared, found⟩
  rw [← collects] at reported
  rw [enum_field (plain field declared) takes given present] at reported collected
  cases looked : e.ofJson value with
  | error unknown =>
      have own : ⟨choiceProblem value, [.key field.1.name]⟩ ∈ issues :=
        collected (by simp [looked, issuesOf])
      simp only [reduceCtorEq, exists_false, false_iff, Except.error.injEq, exists_eq', true_iff]
      exact ⟨fun free => free _ own rfl, own⟩
  | ok member =>
      simp only [looked, issuesOf, ne_eq, not_true_eq_false, iff_false] at reported
      simp only [Except.ok.injEq, exists_eq', true_iff, reduceCtorEq, exists_false, false_iff]
      exact ⟨fun issue found head => reported ⟨issue, found, head⟩,
        fun own => reported ⟨_, own, rfl⟩⟩

end Fields

theorem quotedText_some_iff {value : Json} :
    (∃ shown, value.quotedText? = some shown) ↔ value.isWritable = true := by
  simp [Json.quotedText?]

/-- A value stands for a member just when it is the member's wire string, and anything else is
refused with a message that shows it and all wire strings; only a value with an integer too long for
any text is not shown. As a field of a record, where it is not null, a value is taken in the same
cases and for the same member, and is reported in all others, unless the record is not looked at for
the sake of a broken key. -/
theorem wire_values_agree (known : e ∈ WireEnum.all) (value : Json) :
    (∀ member, e.ofJson value = .ok member ↔ member ∈ e.members ∧ value = .string member.wire) ∧
    (∀ unknown, e.ofJson value = .error unknown ↔
      (∀ member ∈ e.members, value ≠ .string member.wire) ∧ unknown = ⟨value, e⟩) ∧
    (∀ unknown, e.ofJson value = .error unknown → unknown.message =
      match value.quotedText? with
      | some shown => shown ++ " is not a valid " ++ e.name ++ "; expected one of: " ++
          String.intercalate ", " (e.members.map Member.wire)
      | none => Decimal.unwritableText) ∧
    (∀ points, Json.ofPoints points = .ok value → ∃ shown, value.quotedText? = some shown) ∧
    ∀ model ∈ models, ∀ field ∈ model.fields, field.2.enum? = some e → value ≠ .null →
      ∀ members : Members, members.lookup (.plain field.1.name) = some value →
        (∀ answer, model.readJson (.object members) = .ok answer →
          ∃ member, e.ofJson value = .ok member ∧ answer.field field.1.name = .choice member) ∧
        ∀ issues, model.readJson (.object members) = .error issues →
          issues = [⟨.brokenText, []⟩] ∧ ¬Whole members ∨
            ((∃ member, e.ofJson value = .ok member) ↔
                ∀ issue ∈ issues, issue.path.head? ≠ some (.key field.1.name)) ∧
              ((∃ unknown, e.ofJson value = .error unknown) ↔
                ⟨choiceProblem value, [.key field.1.name]⟩ ∈ issues) := by
  refine ⟨fun _ => WireEnum.ofJson_iff (enums_apart known), fun _ => WireEnum.ofJson_error_iff,
    ?message, ?shown, ?fields⟩
  case message =>
    intro unknown failed
    obtain ⟨_, rfl⟩ := WireEnum.ofJson_error_iff.mp failed
    exact WireEnum.message_eq _
  case shown =>
    intro points read
    exact quotedText_some_iff.mpr (Json.ofPoints_iff.mp read).writable
  case fields =>
    intro model listed field declared takes present members given
    exact ⟨fun _ => enum_accepted listed declared takes given present,
      fun _ => enum_reported listed declared takes given present⟩

def capitalUsage : Members := [("id", .int 1), ("organization_usage", .string "Deny")]

theorem wire_values_agree_capital :
    ∃ issues unknown,
      clientGrant.readJson (.object capitalUsage) = .error issues ∧
      WireEnum.organizationUsage.ofJson (.string "Deny") = .error unknown ∧
      unknown.message =
        "'Deny' is not a valid OrganizationUsage; expected one of: deny, allow, require" ∧
      ⟨.notMember, [.key "organization_usage"]⟩ ∈ issues := by
  have failed : clientGrant.readJson (.object capitalUsage) =
      .error [⟨.notText, [.key "id"]⟩, ⟨.notMember, [.key "organization_usage"]⟩] := by rfl
  have unknown : WireEnum.organizationUsage.ofJson (.string "Deny") =
      .error ⟨.string "Deny", WireEnum.organizationUsage⟩ := by rfl
  have declared : nullable "organization_usage" (.choice WireEnum.organizationUsage) ∈
      clientGrant.fields := by simp [clientGrant]
  obtain ⟨_, _, message, _, fields⟩ :=
    wire_values_agree (e := WireEnum.organizationUsage) (by decide) (.string "Deny")
  obtain ⟨_, reports⟩ :=
    fields clientGrant (by simp [models]) _ declared rfl (by decide) capitalUsage rfl
  have own := (reports _ failed).resolve_left (by simp)
  refine ⟨_, _, failed, unknown, ?_, own.2.mp ⟨_, unknown⟩⟩
  rw [message _ unknown]
  decide +kernel

end Resource

end TenantApi
