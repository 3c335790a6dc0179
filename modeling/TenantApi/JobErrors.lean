import TenantApi.Json.Bytes
import TenantApi.Json.Display
import TenantApi.Resource.Job
import TenantApi.Text.Blank

/-!
Errors of a job. The service answers with an array, one entry for each rejected user record, or
with an object, the job itself when it failed as a whole. A blank answer and an empty array mean
that there are no errors. Everything else is refused, and the refusal says at which stage.
-/

namespace TenantApi

open Schema

inductive JobErrors where
  /-- Errors of single records, in the order in which they were reported. -/
  | importErrors (entries : List Datum)
  | jobFailure (job : Datum)

namespace JobErrors

inductive Refusal where
  | notUtf8 (fault : Decoding.Fault)
  | notJson (error : Json.ReadError)
  | mismatch (issues : List Issue)
  /-- Neither an array nor an object; the name says what it was. -/
  | wrongType (name : String)
  deriving DecidableEq, Repr

def Refusal.message : Refusal → String
  | .notUtf8 fault => "Job error details are not valid UTF-8: " ++ fault.message
  | .notJson error => "Job error details are not valid JSON: " ++ error.message
  | .mismatch _ => "Job error details do not match the expected schema"
  | .wrongType name => "Expected a JSON array or object for job error details, got " ++ name

def entriesKind : Kind := .list Resource.jobImportErrorDetails.kind

def ofJson (value : Json) : Except Refusal (Option JobErrors) :=
  match value with
  | .array [] => .ok none
  | .array items => match entriesKind.read (Datum.ofJson (.array items)) with
    | .ok (.list entries) => .ok (some (.importErrors entries))
    | .ok _ => .ok none
    | .error issues => .error (.mismatch issues)
  | .object members => match Resource.job.readJson (.object members) with
    | .ok job => .ok (some (.jobFailure job))
    | .error issues => .error (.mismatch issues)
  | other => .error (.wrongType other.typeName)

def byteOrderMark : Char := '\ufeff'

def ofPoints (text : List Point) : Except Refusal (Option JobErrors) :=
  let body := text.dropWhile (· = .char byteOrderMark)
  if Text.isBlankText (body.map Point.shown) then .ok none
  else match Json.ofPoints body with
    | .error error => .error (.notJson error)
    | .ok value => ofJson value

def ofBytes (bytes : Octets) : Except Refusal (Option JobErrors) :=
  match Utf8.decode (Utf8.dropMark bytes) with
  | .error fault => .error (.notUtf8 fault)
  | .ok text => ofPoints (text.map .char)

inductive Raw where
  | absent
  | text (text : LooseText)
  | bytes (octets : Octets)

def resolve : Raw → Except Refusal (Option JobErrors)
  | .absent => .ok none
  | .text text => ofPoints text.points
  | .bytes octets => ofBytes octets

def entryAt? (entries : List Datum) (index : Int) : Option Datum :=
  let position := if index < 0 then index + entries.length else index
  if position < 0 then none else entries[position.toNat]?

def importErrorsTag : String := "import_errors"

def jobFailureTag : String := "job_failure"

def dump : JobErrors → Datum
  | .importErrors entries =>
      .mapping [("kind", .text importErrorsTag), ("entries", .list (Datum.viewItems entries))]
  | .jobFailure job => .mapping [("kind", .text jobFailureTag), ("job", job.view)]

def readMember (tag key : String) (kind : Kind) (entries : Entries) : Except (List Issue) Datum :=
  within (.key tag) (match entries.lookup (.plain key) with
    | some value => within (.key key) (kind.read value)
    | none => .error [⟨.missing, [.key key]⟩])

/-- The errors that a tagged view describes; the tag alone decides which. -/
def ofDump (value : Datum) : Except (List Issue) JobErrors :=
  match value with
  | .mapping entries => match entries.lookup (.plain "kind") with
    | none => .error [⟨.missingTag, []⟩]
    | some (.text tag) =>
        if tag = .plain importErrorsTag then
          match readMember importErrorsTag "entries" entriesKind entries with
          | .ok (.list items) => .ok (.importErrors items)
          | .ok _ => .ok (.importErrors [])
          | .error issues => .error issues
        else if tag = .plain jobFailureTag then
          (readMember jobFailureTag "job" Resource.job.kind entries).map .jobFailure
        else .error [⟨.unknownTag, []⟩]
    | some _ => .error [⟨.unknownTag, []⟩]
  | _ => .error [⟨.notObject, []⟩]

def same : JobErrors → JobErrors → Bool
  | .importErrors a, .importErrors b => Datum.sameItems a b
  | .jobFailure a, .jobFailure b => a.same b
  | _, _ => false

end JobErrors

end TenantApi
