import TenantApi.Proofs.JobErrorOutcomes
import TenantApi.Proofs.SchemaRoundTrip

/-!
The tagged view of job errors. It is read back as the errors that it shows, whatever members the
service has put beside the declared ones: the tag stands outside the data, and the schemas of a job
and of an entry give back what they once made.
-/

namespace TenantApi.JobErrors

open Schema

theorem jobSummary_settled : Resource.jobSummary.kind.Settled := by
  apply Model.settled
  case apart => decide
  case unaliased => simp [Unaliased, Resource.jobSummary, nullable]
  case each => simp [Resource.jobSummary, Kind.Settled]

theorem job_settled : Resource.job.kind.Settled := by
  apply Model.settled
  case apart => decide
  case unaliased => simp [Unaliased, Resource.job, nullable]
  case each => simp [Resource.job, Kind.Settled, jobSummary_settled]

theorem jobImportError_settled : Resource.jobImportError.kind.Settled := by
  apply Model.settled
  case apart => decide
  case unaliased => simp [Unaliased, Resource.jobImportError, required, defaulted]
  case each => simp [Resource.jobImportError, Kind.Settled, Kind.read, Datum.view]

theorem entries_settled : entriesKind.Settled := by
  rw [entriesKind, Kind.Settled]
  apply Model.settled
  case apart => decide
  case unaliased => simp [Unaliased, Resource.jobImportErrorDetails, defaulted]
  case each =>
    simp [Resource.jobImportErrorDetails, Kind.Settled, Kind.read, Datum.view, Datum.viewItems,
      readItems, Except.map, jobImportError_settled]

theorem readMember_found {tag key : String} {kind : Kind} {entries : Entries}
    {value result : Datum} (found : entries.lookup (.plain key) = some value)
    (read : kind.read value = .ok result) : readMember tag key kind entries = .ok result := by
  simp only [readMember, found, within_ok]
  exact read

theorem ofDump_entries {items : List Json} {entries : List Datum}
    (plain : (Datum.ofJson (.array items)).Plain) (valid : Validated items entries) :
    ofDump (dump (.importErrors entries)) = .ok (.importErrors entries) := by
  have read := validated_iff.mpr ⟨entries, rfl, valid⟩
  have again : entriesKind.read (.list (Datum.viewItems entries)) = .ok (.list entries) :=
    read_view entriesKind entries_settled plain read
  have member : readMember importErrorsTag "entries" entriesKind
      [("kind", .text importErrorsTag), ("entries", .list (Datum.viewItems entries))] =
        .ok (.list entries) := readMember_found rfl again
  simp only [dump, ofDump, List.lookup, beq_self_eq_true, ↓reduceIte, member]

theorem ofDump_job {value : Json} {job : Datum} (plain : (Datum.ofJson value).Plain)
    (valid : Resource.job.readJson value = .ok job) :
    ofDump (dump (.jobFailure job)) = .ok (.jobFailure job) := by
  have again : Resource.job.kind.read job.view = .ok job :=
    read_view Resource.job.kind job_settled plain valid
  have member : readMember jobFailureTag "job" Resource.job.kind
      [("kind", .text jobFailureTag), ("job", job.view)] = .ok job := readMember_found rfl again
  simp only [dump, ofDump, List.lookup, beq_self_eq_true, ↓reduceIte, member]
  rfl

-- Whatever the service has answered, and under whatever keys.
theorem ofDump_dump (raw : Raw) (errors : JobErrors) (resolved : resolve raw = .ok (some errors)) :
    ofDump errors.dump = .ok errors := by
  rcases resolve_situated raw with ⟨same, _⟩ | ⟨entries, same, _, items, _, read, _, valid⟩ |
    ⟨job, same, _, members, _, read, valid⟩ | ⟨_, same, _⟩
  all_goals cases same.symm.trans resolved
  · exact ofDump_entries read.keyedOnce valid
  · exact ofDump_job read.keyedOnce valid

section Example

-- A job with members of its own under the names that the view uses.
def exampleAnswer : String :=
  "\x7b\"kind\":\"import_errors\",\"entries\":3,\"job\":[null],\"limit\":\"007\"," ++
    "\"summary\":\x7b\"kind\":true,\"total\":2\x7d\x7d"

def exampleMembers : Members := [
  ("kind", .string "import_errors"), ("entries", .int 3), ("job", .array [.null]),
  ("limit", .string "007"), ("summary", .object [("kind", .bool true), ("total", .int 2)])]

def exampleJob : Datum :=
  .record [("id", .null), ("type", .null), ("status", .null), ("created_at", .null),
    ("connection_id", .null), ("connection", .null), ("external_id", .null), ("format", .null),
    ("limit", .int 7), ("location", .null), ("percentage_done", .null),
    ("time_left_seconds", .null), ("status_details", .null),
    ("summary", .record [("failed", .null), ("updated", .null), ("inserted", .null),
      ("total", .int 2)] [("kind", .bool true)])]
    [("kind", .text "import_errors"), ("entries", .int 3), ("job", .list [.null])]

theorem ofDump_dump_example :
    resolve (.text exampleAnswer) = .ok (some (.jobFailure exampleJob)) ∧
      ofDump (dump (.jobFailure exampleJob)) = .ok (.jobFailure exampleJob) := by
  have read : Json.ofChars exampleAnswer.toList = .ok (.object exampleMembers) := by
    decide +kernel
  have checked : Resource.job.readJson (.object exampleMembers) = .ok exampleJob := by rfl
  have resolved : resolve (.text exampleAnswer) = .ok (some (.jobFailure exampleJob)) :=
    resolve_failure ⟨_, exampleMembers, body_plain (by decide), spells_chars.mpr read, checked⟩
  exact ⟨resolved, ofDump_dump _ _ resolved⟩

end Example

end TenantApi.JobErrors
