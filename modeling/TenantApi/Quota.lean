import TenantApi.Decimal.Integer
import TenantApi.Decimal.Power
import TenantApi.Header
import TenantApi.Text.Quoted
import TenantApi.Text.Split

/-!
Quota limits in response headers. A header value is a list of segments between commas; a segment
is a list of `key=value` parts between semicolons and describes one bucket: `b` names it, `q`, `r`
and `t` are the quota, the calls that remain and the seconds until the window resets. Other keys
are ignored, so that the service can add some. A malformed segment is reported and passed over.
The one failure is a number of more digits than are read at all.
-/

namespace TenantApi.Quota

structure Limit where
  quota : Nat
  remaining : Nat
  resetAfter : Nat
  deriving DecidableEq, Repr

structure Limits where
  perHour : Option Limit
  perDay : Option Limit
  deriving DecidableEq, Repr

def Limits.empty : Limits := ⟨none, none⟩

structure TooManyDigits where
  count : Nat
  deriving DecidableEq, Repr

def numberLimit : Nat := Decimal.twoTo 31 - 1

/-- A number of ASCII digits up to `numberLimit`. Signs, blanks and other digits make it none. -/
def number (text : List Char) : Except TooManyDigits (Option Nat) :=
  if text.isEmpty || !text.all Text.isAsciiDigit then .ok none
  else if Decimal.digitLimit < text.length then .error ⟨text.length⟩
  else
    let value := Text.natOfDigits text
    .ok (if value ≤ numberLimit then some value else none)

/-- A part is a key and a value, both non-empty; the value may hold `=` itself. -/
def part? (text : List Char) : Option (List Char × List Char) :=
  match Text.cutFirst '=' text with
  | some (key, value) => if key.isEmpty || value.isEmpty then none else some (key, value)
  | none => none

def parts? (segment : List Char) : Option (List (List Char × List Char)) :=
  match (Text.splitAt ';' segment).mapM part? with
  | some parts => if (parts.map Prod.fst).Nodup then some parts else none
  | none => none

def parseSegment (segment : String) : Except TooManyDigits (Option (Limit × String)) := do
  match parts? segment.toList with
  | none => return none
  | some parts =>
      match parts.lookup ['b'], parts.lookup ['q'], parts.lookup ['r'], parts.lookup ['t'] with
      | some bucket, some q, some r, some t =>
          match ← number q, ← number r, ← number t with
          | some quota, some remaining, some resetAfter =>
              return some (⟨quota, remaining, resetAfter⟩, String.ofList bucket)
          | _, _, _ => return none
      | _, _, _, _ => return none

def parseSingle (value : Option String) : Except TooManyDigits (Option (Limit × String)) :=
  match value with
  | none => .ok none
  | some text => if text = "" then .ok none else parseSegment text

def hourlyBucket : String := "per_hour"

/-- Any bucket other than the hourly one fills the daily slot. -/
def Limits.set (limits : Limits) (bucket : String) (limit : Limit) : Limits :=
  if bucket = hourlyBucket then { limits with perHour := some limit }
  else { limits with perDay := some limit }

structure Reading (α : Type) where
  result : Except TooManyDigits α
  malformed : List String

/-- Segments from left to right; a later bucket replaces an earlier one in the same slot. -/
def readSegments : List String → Limits → Reading Limits
  | [], limits => ⟨.ok limits, []⟩
  | segment :: rest, limits =>
      match parseSegment segment with
      | .error error => ⟨.error error, []⟩
      | .ok none =>
          let reading := readSegments rest limits
          ⟨reading.result, segment :: reading.malformed⟩
      | .ok (some (limit, bucket)) => readSegments rest (limits.set bucket limit)

def segments (value : String) : List String :=
  (Text.splitAt ',' value.toList).map String.ofList

def readLimits (value : Option String) : Reading (Option Limits) :=
  match value with
  | none => ⟨.ok none, []⟩
  | some text =>
      if text = "" then ⟨.ok none, []⟩
      else
        let reading := readSegments (segments text) Limits.empty
        ⟨reading.result.map some, reading.malformed⟩

def clientHeader : String := "Auth0-Client-Quota-Limit"

def organizationHeader : String := "Auth0-Organization-Quota-Limit"

def clientLimits (headers : Option Grouped) : Reading (Option Limits) :=
  readLimits (headers.bind (Header.first? · clientHeader))

def organizationLimits (headers : Option Grouped) : Reading (Option Limits) :=
  readLimits (headers.bind (Header.first? · organizationHeader))

end TenantApi.Quota
