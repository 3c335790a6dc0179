import TenantApi.Failure
import TenantApi.Log.Event
import TenantApi.Settings.Basic
import TenantApi.Telemetry

/-!
Connections. A connection knows its base address and the fields that every request carries, and it
remembers the rate limit of the latest response. Sending a call sends at most one request: faults in
making it come first, then a closed connection, then what the transport does. A response is logged,
its rate limit is taken, and only then its status decides between a value and an error.
-/

namespace TenantApi

structure Connection where
  base : Url
  fields : Fields
  timeout : Number
  /-- The rate limit of the latest response, if that gave one. -/
  lastRateLimit : Option RateLimit
  isClosed : Bool

/-- What happens to a request that is sent. An answer whose content encoding cannot be undone is a
broken exchange. -/
inductive Exchange where
  | answered (response : Response)
  | broken (kind message : String)

structure Sent where
  request : Request
  id : String

structure Entry where
  id : String
  event : Log.Event
  deriving DecidableEq

structure Outcome (α : Type) where
  result : Except Failure α
  connection : Connection
  sent : List Sent
  log : List Entry

namespace Connection

variable [Platform]

/-- The fields that every request of a connection carries: telemetry, the token when there is one,
and the given fields, which take the place of fields spelled exactly like them. -/
def ownFields (runtimeVersion : String) (token : Option String) (given : Fields) : Fields :=
  let bearer : Fields := match token with
    | none => []
    | some token => if token = "" then [] else [("Authorization", "Bearer " ++ token)]
  given.foldl (fun fields field => Header.set field.1 field.2 fields)
    ((Telemetry.headerName, Telemetry.headerValue runtimeVersion) :: bearer)

def new (settings : Settings) (runtimeVersion base : String) (token : Option String)
    (given : Fields) (timeout : Option Number) : Except Request.Fault Connection := do
  let url ← ((Url.parse base.toList).bind Url.asBase).mapError .url
  let fields := ownFields runtimeVersion token given
  let _ ← (Header.requireAscii fields).mapError .notAscii
  return ⟨url, fields, timeout.getD settings.timeout, none, false⟩

def refuse {α : Type} (connection : Connection) (failure : Failure) : Outcome α :=
  ⟨.error failure, connection, [], []⟩

def elapsedMillis (seconds : Float) : Float := Decimal.roundPlaces 2 (seconds * 1000)

/-- A fault in a response that comes to light before it is looked at. -/
def responseFault? (request : Request) (response : Response) : Option Failure :=
  if request.url.scheme.isEmpty then some (.noScheme request.url.text)
  else match response.redirection? with
    | none => none
    | some location => match Redirect.target request.url location with
      | .ok _ => none
      | .error fault => some (.redirection fault)

def refusal (id : String) (request : Request) (response : Response)
    (rateLimit : Option RateLimit) : Failure × List Entry :=
  match response.value with
  | .error refusal => (.undecodable refusal, [])
  | .ok body =>
      let error := ApiError.ofResponse response body rateLimit
      let warnings : List Entry :=
        if error.kind = .rateLimit then
          [⟨id, .rateLimited request.method request.url.readablePath response.status
            (rateLimit.bind RateLimit.remaining)⟩]
        else []
      (.service error, warnings)

def receive (connection : Connection) (id : String) (call : Call) (request : Request)
    (response : Response) (elapsed : Float) : Outcome Response :=
  let sent := [⟨request, id⟩]
  match responseFault? request response with
  | some failure => ⟨.error failure, connection, sent, []⟩
  | none =>
      let reading := RateLimit.ofFields response.fields
      let log : List Entry :=
        ⟨id, .call call.method call.path response.status (elapsedMillis elapsed)⟩ ::
          reading.malformed.map fun segment => ⟨id, .malformedQuota segment⟩
      match reading.result with
      | .error fault => ⟨.error (.quota fault), connection, sent, log⟩
      | .ok rateLimit =>
          let connection := { connection with lastRateLimit := rateLimit }
          if response.isFailure then
            let (failure, warnings) := refusal id request response rateLimit
            ⟨.error failure, connection, sent, log ++ warnings⟩
          else ⟨.ok response, connection, sent, log⟩

def send (connection : Connection) (id : String) (call : Call) (exchange : Exchange)
    (elapsed : Float) : Outcome Response :=
  match Request.ofCall connection.base connection.fields call with
  | .error fault => connection.refuse (.request fault)
  | .ok request =>
      if connection.isClosed then connection.refuse .closed
      else
        let request := request.withCredentials
        match exchange with
        | .broken kind message =>
            ⟨.error (.transport kind message), connection, [⟨request, id⟩], []⟩
        | .answered response => connection.receive id call request response elapsed

def close (connection : Connection) : Connection := { connection with isClosed := true }

end Connection

end TenantApi
