import TenantApi.Proofs.JobErrorTags

/-!
What job errors hold of the answer. Entries stand at the positions of their items, an error in an
entry at the position of its own item, and what no field was declared for is kept as it came. In an
object with repeated keys the last one counts, so all of this is said of what is found under a key.
-/

namespace TenantApi.JobErrors

open Schema

def errorNames : List String := ["code", "message", "path"]

def IsError (item : Json) (error : Datum) : Prop :=
  ∃ members code message path, item = .object members ∧
    members.lookup (.plain "code") = some (.string code) ∧
    (members.lookup (.plain "message")).getD (.string "") = .string message ∧
    (members.lookup (.plain "path")).getD (.string "") = .string path ∧
    error = .record [("code", .text code), ("message", .text message), ("path", .text path)]
      (Datum.ofMembers (undeclared (errorNames.map .plain) members))

def entryNames : List String := ["user", "errors"]

def IsEntry (item : Json) (entry : Datum) : Prop :=
  ∃ members items errors, item = .object members ∧
    (members.lookup (.plain "errors")).getD (.array []) = .array items ∧
    List.Forall₂ IsError items errors ∧
    entry = .record [("user", Datum.ofJson (given members "user")), ("errors", .list errors)]
      (Datum.ofMembers (undeclared (entryNames.map .plain) members))

/-- What a record holds of an object: every member that is not declared, and in the declared fields
each text as it was given and each integer that was given as one. -/
structure Holds (declared texts counts : List String) (members : Members) (record : Datum) :
    Prop where
  parts : ∃ fields, fields.map Prod.fst = declared.map .plain ∧
    record = .record fields (Datum.ofMembers (undeclared (declared.map .plain) members))
  texts : ∀ name ∈ texts, record.field name = Datum.ofJson (given members name)
  counts : ∀ name ∈ counts, given members name = .null ∧ record.field name = .null ∨
    ∃ n, record.field name = .int n ∧ ∀ m, given members name = .int m → n = m

def summaryNames : List String := ["failed", "updated", "inserted", "total"]

def jobTexts : List String := ["id", "type", "status", "connection_id", "connection",
  "external_id", "format", "location", "status_details"]

def jobCounts : List String := ["limit", "percentage_done", "time_left_seconds"]

def jobNames : List String := ["id", "type", "status", "created_at", "connection_id", "connection",
  "external_id", "format", "limit", "location", "percentage_done", "time_left_seconds",
  "status_details", "summary"]

structure IsJob (members : Members) (job : Datum) : Prop where
  holds : Holds jobNames jobTexts jobCounts members job
  created : given members "created_at" = .null ∧ job.field "created_at" = .null ∨
    ∃ moment, job.field "created_at" = .moment moment
  summary : given members "summary" = .null ∧ job.field "summary" = .null ∨
    ∃ inner, given members "summary" = .object inner ∧
      Holds summaryNames [] summaryNames inner (job.field "summary")

/-! ## Scalars -/

section Scalars
variable {value : Json} {result : Datum}

theorem optional_count (read : (Kind.optional .integer).read (Datum.ofJson value) = .ok result) :
    value = .null ∧ result = .null ∨ ∃ n, result = .int n ∧ ∀ m, value = .int m → n = m := by
  rcases optional_read_json read with absent | present
  · exact .inl absent
  · rw [Kind.read] at present
    obtain ⟨n, rfl⟩ := integer_result present
    refine .inr ⟨n, rfl, ?_⟩
    rintro m rfl
    cases present
    rfl

end Scalars

/-! ## Records -/

section Records
variable {members : Members} {checked : Entries} {item : Json} {result : Datum}

theorem error_found (read : Resource.jobImportError.readJson item = .ok result) :
    IsError item result := by
  obtain ⟨members, checked, rfl, _, made, rfl⟩ :=
    (Model.readJson_iff rfl (Model.unaliased jobImportError_settled)).mp read
  obtain ⟨code, _, first, others, rfl⟩ := gives_cons made
  obtain ⟨message, _, second, last, rfl⟩ := gives_cons others
  obtain ⟨path, _, third, none, rfl⟩ := gives_cons last
  cases none
  have empty : Kind.text.read (Datum.ofJson (.string "")) = .ok (Datum.ofJson (.string "")) := rfl
  obtain ⟨message, sent, rfl⟩ := text_read_iff.mp ((defaulted_read _ empty).mp second)
  obtain ⟨path, located, rfl⟩ := text_read_iff.mp ((defaulted_read _ empty).mp third)
  simp only [readField_iff, required, Datum.lookup_ofMembers, Option.map_eq_some_iff, reduceCtorEq,
    and_false, or_false] at first
  obtain ⟨_, ⟨value, found, rfl⟩, first⟩ := first
  obtain ⟨code, rfl, rfl⟩ := text_read_iff.mp first
  exact ⟨members, code, message, path, rfl, found, sent, located, rfl⟩

theorem entry_found (read : Resource.jobImportErrorDetails.readJson item = .ok result) :
    IsEntry item result := by
  obtain ⟨members, checked, rfl, _, made, rfl⟩ :=
    (Model.readJson_iff rfl (Model.unaliased entries_settled)).mp read
  obtain ⟨user, _, first, last, rfl⟩ := gives_cons made
  obtain ⟨errors, _, second, none, rfl⟩ := gives_cons last
  cases none
  cases (defaulted_read .null rfl).mp first
  obtain ⟨items, errors, found, rfl, each⟩ :=
    list_read_json ((defaulted_read (.array []) rfl).mp second)
  exact ⟨members, items, errors, rfl, found, each.imp fun _ _ => error_found, rfl⟩

theorem holds_of_gives {model : Model} {texts counts : List String} (settled : model.kind.Settled)
    (made : List.Forall₂ (Gives (Datum.ofMembers members)) model.fields checked)
    (texts_declared : ∀ name ∈ texts, nullable name .text ∈ model.fields)
    (counts_declared : ∀ name ∈ counts, nullable name .integer ∈ model.fields) :
    Holds (names model.fields) texts counts members
      (.record checked (Datum.ofMembers (undeclared (keys model.fields) members))) where
  parts := ⟨checked, names_checked made, rfl⟩
  texts name listed :=
    optional_text (nullable_found (Model.apart settled) made (texts_declared name listed))
  counts name listed :=
    optional_count (nullable_found (Model.apart settled) made (counts_declared name listed))

theorem summary_found (read : Resource.jobSummary.readJson item = .ok result) :
    ∃ members, item = .object members ∧ Holds summaryNames [] summaryNames members result := by
  obtain ⟨members, checked, rfl, _, made, rfl⟩ :=
    (Model.readJson_iff rfl (Model.unaliased jobSummary_settled)).mp read
  refine ⟨members, rfl, holds_of_gives jobSummary_settled made (by simp) ?_⟩
  simp [summaryNames, Resource.jobSummary]

theorem job_found (read : Resource.job.readJson (.object members) = .ok result) :
    IsJob members result := by
  obtain ⟨_, checked, same, _, made, rfl⟩ :=
    (Model.readJson_iff rfl (Model.unaliased job_settled)).mp read
  cases same
  have apart := Model.apart job_settled
  refine ⟨?holds, ?created, ?summary⟩
  case holds =>
    apply holds_of_gives job_settled made
    · simp [jobTexts, Resource.job]
    · simp [jobCounts, Resource.job]
  case created =>
    have moment : nullable "created_at" .moment ∈ Resource.job.fields := by simp [Resource.job]
    refine (optional_read_json (nullable_found apart made moment)).imp_right ?_
    intro read
    rw [Kind.read] at read
    exact moment_result read
  case summary =>
    have nested : nullable "summary" Resource.jobSummary.kind ∈ Resource.job.fields := by
      simp [Resource.job]
    exact (optional_read_json (nullable_found apart made nested)).imp_right summary_found

end Records

/-! ## Positions -/

section Positions
variable {entries : List Datum} {entry : Datum}

theorem entryAt?_start (index : Nat) : entryAt? entries index = entries[index]? := by
  have counted : ¬ (index : Int) < 0 := by omega
  simp [entryAt?, counted]

theorem entryAt?_end {index : Nat} (inside : index < entries.length) :
    entryAt? entries (index - entries.length) = entries[index]? := by
  have below : (index : Int) - entries.length < 0 := by omega
  have back : (index : Int) - entries.length + entries.length = index := by omega
  simp [entryAt?, below, back]

end Positions

-- The answer may be bytes or text, with marks in front or not; what counts is its body.
theorem resolve_keeps {raw : Raw} {body : List Point} (sent : BodyOf raw body) :
    (∀ items result, Spells body (.array items) → items ≠ [] → resolve raw = .ok result →
      ∃ entries, result = some (.importErrors entries) ∧ entries.length = items.length ∧
        ∀ index, (inside : index < items.length) → ∃ entry, IsEntry items[index] entry ∧
          entryAt? entries index = some entry ∧
          entryAt? entries (index - items.length) = some entry) ∧
    (∀ members result, Spells body (.object members) → resolve raw = .ok result →
      ∃ job, result = some (.jobFailure job) ∧ IsJob members job) ∧
    ∀ halves text members left, Json.Reads halves text (.value (.object members)) left →
      ∃ written, Json.Written halves text written left ∧ (members.map Prod.fst).Nodup ∧
        ∀ key, members.lookup key = written.reverse.lookup key := by
  refine ⟨?entries, ?job, ?repeated⟩
  case entries =>
    intro items result read full resolved
    rw [resolve_text sent read, ofJson_items full] at resolved
    obtain ⟨entries, valid, same⟩ | ⟨_, _, refused⟩ := resolved
    · cases same
      refine ⟨entries, rfl, valid.length_eq.symm, ?_⟩
      intro index inside
      have present : index < entries.length := valid.length_eq ▸ inside
      refine ⟨entries[index], entry_found (valid.get inside present), ?_, ?_⟩
      · rw [entryAt?_start, List.getElem?_eq_getElem present]
      · rw [valid.length_eq, entryAt?_end present, List.getElem?_eq_getElem present]
    · cases refused
  case job =>
    intro members result read resolved
    rw [resolve_text sent read, ofJson_members] at resolved
    obtain ⟨job, valid, same⟩ | ⟨_, _, refused⟩ := resolved
    · cases same
      exact ⟨job, rfl, job_found valid⟩
    · cases refused
  case repeated =>
    intro halves text members left read
    obtain ⟨written, found, rfl⟩ := read.object_written
    exact ⟨written, found, Json.collect_nodup written, fun key => Json.lookup_collect written⟩

section Example

-- Two rejected records: one with members of its own and a repeated key, one with nothing declared.
def importAnswer : String :=
  "[\x7b\"note\":1,\"user\":[NaN],\"errors\":[\x7b\"line\":7,\"code\":\"E1\"\x7d]," ++
    "\"note\":2\x7d,\x7b\"kind\":\"job_failure\"\x7d]"

def importItems : List Json := [
  .object [("note", .int 2), ("user", .array [.float Decimal.notANumber]),
    ("errors", .array [.object [("line", .int 7), ("code", .string "E1")]])],
  .object [("kind", .string "job_failure")]]

def importEntries : List Datum := [
  .record [("user", .list [.float Decimal.notANumber]),
    ("errors", .list [.record [("code", .text "E1"), ("message", .text ""), ("path", .text "")]
      [("line", .int 7)]])]
    [("note", .int 2)],
  .record [("user", .null), ("errors", .list [])] [("kind", .text "job_failure")]]

theorem resolve_keeps_example :
    BodyOf (.text importAnswer) (importAnswer.toList.map .char) ∧
      Spells (importAnswer.toList.map .char) (.array importItems) ∧
      resolve (.text importAnswer) = .ok (some (.importErrors importEntries)) ∧
      ∀ index, (inside : index < importItems.length) → ∃ entry, IsEntry importItems[index] entry ∧
        entryAt? importEntries index = some entry ∧
        entryAt? importEntries (index - importItems.length) = some entry := by
  have sent : BodyOf (.text importAnswer) (importAnswer.toList.map .char) :=
    body_plain (by decide)
  have read : Spells (importAnswer.toList.map .char) (.array importItems) :=
    spells_chars.mpr (by decide +kernel)
  have checked : entriesKind.read (Datum.ofJson (.array importItems)) =
      .ok (.list importEntries) := by rfl
  obtain ⟨entries, same, valid⟩ := validated_iff.mp checked
  cases same
  have resolved : resolve (.text importAnswer) = .ok (some (.importErrors importEntries)) :=
    resolve_records ⟨_, importItems, sent, read, by simp [importItems], valid⟩
  obtain ⟨found, same, _, each⟩ :=
    (resolve_keeps sent).1 importItems _ read (by simp [importItems]) resolved
  cases same
  exact ⟨sent, read, resolved, each⟩

end Example

end TenantApi.JobErrors
