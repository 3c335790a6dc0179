import TenantApi.Log.Record
import TenantApi.Text.Quoted

/-!
What the library logs: calls that were answered, quota segments that are malformed, calls that were
refused for their rate, and ID tokens that were rejected.
-/

namespace TenantApi.Log

inductive Event where
  | call (method path : String) (status : Int) (elapsedMillis : Float)
  | malformedQuota (segment : String)
  | rateLimited (method path : String) (status : Int) (remaining : Option Int)
  | tokenRejected (reason : LooseText)
  deriving DecidableEq, Repr

namespace Event

def level : Event → Int
  | .rateLimited .. => warning
  | _ => debug

def logger : Event → String
  | .call .. | .rateLimited .. => "auth0_sdk.core.connection"
  | .malformedQuota _ => "auth0_sdk.core.quota"
  | .tokenRejected _ => "auth0_sdk.authentication.tokens"

def remainingText : Option Int → String
  | none => "None"
  | some count => String.ofList (Text.intDigits count)

def message : Event → LooseText
  | .call method path status elapsed =>
      method ++ " " ++ path ++ " " ++ String.ofList (Text.intDigits status) ++ " " ++
        String.ofList (Decimal.fixed 2 elapsed) ++ "ms"
  | .malformedQuota segment => "Ignoring malformed quota segment " ++ Text.quotedString segment
  | .rateLimited method path _ remaining =>
      "Rate limited on " ++ method ++ " " ++ path ++
        " (remaining=" ++ remainingText remaining ++ ")"
  | .tokenRejected reason => .plain "ID token rejected: " ++ reason

def attributes : Event → Members
  | .call method path status elapsed =>
      [("http_method", .string method), ("path", .string path), ("status_code", .int status),
        ("elapsed_ms", .float elapsed)]
  | .rateLimited method path status remaining =>
      [("http_method", .string method), ("path", .string path), ("status_code", .int status),
        ("rate_limit_remaining", (remaining.map Json.int).getD .null)]
  | _ => []

def record (event : Event) (created : Number) : Record :=
  ⟨event.level, event.logger, event.message, created, event.attributes, none⟩

end Event

end TenantApi.Log
