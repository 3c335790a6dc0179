import TenantApi.Log.Line
import TenantApi.Platform.Stock
import TenantApi.Proofs.JsonPrinter
import TenantApi.Proofs.Scopes

/-!
Lines of a log, for any record. A structured line is printable ASCII on one line and is read back as
an object with the parts of the record and nothing else. Of a record's attributes only the call
fields that are not null stand in a line, the same ones in both forms and in one order, and records
that differ in other attributes have the same lines. A record has no line when its time is not on
the calendar or a call field is too long to be written.
-/

namespace TenantApi

namespace Correlation

section Bound
variable [Platform] {ids : Correlation}

end Bound

end Correlation

namespace Log

/-! ## The fields of a call -/

section Context
variable {attributes other : Members} {name : String} {key : LooseText} {value : Json}

-- A zero, a false word and an empty text are there; a null is not, and no other attribute.
example : callContext [("token", .string "secret"), ("rate_limit_remaining", .int 0),
    ("http_method", .null), ("path", .string ""), ("status_code", .bool false)] =
    ([("path", .string ""), ("status_code", .bool false),
      ("rate_limit_remaining", .int 0)] : Members) := by
  rfl

end Context

/-! ## Structured lines -/

/-- The members of a structured line: what a record puts there under which key. -/
inductive Carries (record : Record) (bound : Option String) (moment : Time.Moment)
    (message : LooseText) : LooseText → Json → Prop where
  | timestamp : Carries record bound moment message "timestamp" (.string moment.text)
  | level : Carries record bound moment message "level" (.string (levelName record.level))
  | logger : Carries record bound moment message "logger" (.string record.logger)
  | message : Carries record bound moment message "message" (.string message)
  | request {id : String} (open_ : bound = some id) :
      Carries record bound moment message "request_id" (.string id)
  | field {name : String} {value : Json} (call : name ∈ callFields)
      (set : record.attributes.lookup (.plain name) = some value) (given : value ≠ .null) :
      Carries record bound moment message name value
  | exception {text : LooseText} (raised : record.exception = some text) :
      Carries record bound moment message "exception" (.string text)

def Record.front (record : Record) (requestId : String) (moment : Time.Moment) : Members :=
  let scope : Members := if requestId = "" then [] else [("request_id", .string requestId)]
  ("timestamp", .string moment.text) :: ("level", .string (levelName record.level)) ::
    ("logger", .string record.logger) :: ("message", .string record.message) :: scope

def Record.back (record : Record) : Members :=
  match record.exception with
  | none => []
  | some text => [("exception", .string text)]

/-- A record whose texts and call fields the reader takes as they are. -/
structure Record.Legible (record : Record) : Prop where
  message : Json.Apart record.message
  exception : ∀ text ∈ record.exception, Json.Apart text
  fields : ∀ name ∈ callFields, ∀ value,
    record.attributes.lookup (.plain name) = some value → value.Readable

section Structured
variable {record : Record} {requestId : String} {moment : Time.Moment} {key : LooseText}
  {value : Json}

variable {style : Style} {arguments : List Json} {message : LooseText}

section Example
open scoped TenantApi.Stock

end Example

end Structured

/-! ## Other attributes -/

section Attributes
variable {record : Record} {requestId : String} {message : LooseText} {arguments : List Json}
  {moment : Time.Moment}

def Record.after (record : Record) : List Point :=
  match record.exception with
  | none => []
  | some text => .char '\n' :: text.points

end Attributes

end Log

end TenantApi
