import TenantApi.Decimal.Power
import TenantApi.Json.Display
import TenantApi.Json.Printer
import TenantApi.Log.Level
import TenantApi.Number
import TenantApi.Time.Moment

/-!
Log records and their two written forms. A record may carry any attributes; only the call fields
are ever written, and only those that are not null. The structured form is one object to a line,
the text form one line with the fields as pairs at its end, and the exception on a line of its own.
A record has no written form when its time is beyond the calendar or an integer in it too long.
-/

namespace TenantApi.Log

structure Record where
  level : Int
  logger : String
  message : LooseText
  /-- Seconds since the start of 1970. -/
  created : Number
  attributes : Members
  exception : Option LooseText

def callFields : List String :=
  ["http_method", "path", "status_code", "elapsed_ms", "rate_limit_remaining"]

def callContext (attributes : Members) : Members :=
  callFields.filterMap fun name =>
    match attributes.lookup (.plain name) with
    | none | some .null => none
    | some value => some (.plain name, value)

inductive ClockFault where
  | badYear (year : Int)
  | tooLarge
  | beyondClock
  | notANumber
  deriving DecidableEq, Repr

def ClockFault.message : ClockFault → String
  | .badYear year => "year " ++ String.ofList (Text.intDigits year) ++ " is out of range"
  | .tooLarge => "[Errno 75] Value too large for defined data type"
  | .beyondClock => "timestamp out of range for platform time_t"
  | .notANumber => "Invalid value NaN (not a number)"

/-- Whole microseconds of a time; the part of a second is rounded, a half to the even neighbour. -/
def microsOf : Number → Except ClockFault Int
  | .whole seconds => .ok (seconds * Time.microsPerSecond)
  | .broken seconds =>
      match Decimal.truncate? seconds with
      | none => .error (if seconds != seconds then .notANumber else .beyondClock)
      | some whole =>
          let part := (Decimal.round? ((seconds - Decimal.ofInt whole) * 1000000)).getD 0
          .ok (whole * Time.microsPerSecond + part)

def momentOf (created : Number) : Except ClockFault Time.Moment := do
  let micros ← microsOf created
  let seconds := micros / Time.microsPerSecond
  if seconds < -(Decimal.twoTo 63) || Decimal.twoTo 63 ≤ seconds then throw .beyondClock
  let moment := Time.Moment.ofMicros micros
  let year := moment.date.year
  if year < -(Decimal.twoTo 31) + 1900 || Decimal.twoTo 31 + 1900 ≤ year then throw .tooLarge
  if Time.isSupportedYear year then return moment
  throw (.badYear year)

inductive Fault where
  | clock (fault : ClockFault)
  /-- An integer with too many digits. -/
  | overlong
  deriving DecidableEq, Repr

def Fault.message : Fault → String
  | .clock fault => fault.message
  | .overlong => Decimal.unwritableText

/-- The moment of a record, whose level must have a name. -/
def Record.moment (record : Record) : Except Fault Time.Moment :=
  if Decimal.isWritable record.level then (momentOf record.created).mapError .clock
  else .error .overlong

def Record.members (record : Record) (requestId : String) (moment : Time.Moment) : Members :=
  let named : Members := [("timestamp", .string moment.text),
    ("level", .string (levelName record.level)), ("logger", .string record.logger),
    ("message", .string record.message)]
  let scope : Members := if requestId = "" then [] else [("request_id", .string requestId)]
  named ++ scope ++ callContext record.attributes ++
    (match record.exception with
      | none => []
      | some text => [(.plain "exception", .string text)])

def Record.structured (record : Record) (requestId : String) : Except Fault String := do
  let moment ← record.moment
  if Json.membersWritable (callContext record.attributes) then
    return Json.toText Json.spaced (.object (record.members requestId moment))
  throw .overlong

def padEnd (width : Nat) (text : List Char) : List Char :=
  text ++ List.replicate (width - text.length) ' '

def Record.start (record : Record) (requestId : String) (moment : Time.Moment) : List Char :=
  moment.plainText ++ ' ' :: padEnd 8 (levelName record.level).toList ++
    (if requestId = "" then [] else ' ' :: '[' :: requestId.toList.take 12 ++ [']']) ++
    ' ' :: record.logger.toList ++ [' ', '-', ' ']

def Record.textLine (record : Record) (requestId : String) (moment : Time.Moment) : List Point :=
  (record.start requestId moment).map .char ++ record.message.points ++
    (callContext record.attributes).flatMap (fun field =>
      .char ' ' :: field.1.points ++ .char '=' :: field.2.displayPlain.points) ++
    (match record.exception with
      | none => []
      | some text => .char '\n' :: text.points)

def Record.text (record : Record) (requestId : String) : Except Fault LooseText := do
  let moment ← record.moment
  if Json.membersWritable (callContext record.attributes) then
    return .ofPoints (record.textLine requestId moment)
  throw .overlong

inductive Style where
  | structured
  | text
  deriving DecidableEq, Repr

def Record.write (record : Record) (style : Style) (requestId : String) :
    Except Fault LooseText :=
  match style with
  | .structured => (record.structured requestId).map .plain
  | .text => record.text requestId

def ownExceptions : List String := [
  "Auth0Error", "ApiError", "BadRequestError", "UnauthorizedError", "NotFoundError",
  "ConflictError", "RateLimitError", "JobErrorDetailsDecodeError", "IdTokenValidationError"]

def exceptionText (type : String) (text : LooseText) : LooseText :=
  let shown : LooseText := if type = "KeyError" then String.ofList text.quoted else text
  let name := if ownExceptions.contains type then "auth0_sdk.core.exceptions." ++ type else type
  if shown = .plain "" then name else .plain (name ++ ": ") ++ shown

end TenantApi.Log
