import TenantApi.ApiError
import TenantApi.Argument
import TenantApi.Http.Redirect
import TenantApi.Http.Request
import TenantApi.IdToken.Basic
import TenantApi.JobErrors

/-!
Why an operation gives no value: its arguments, the making of its request, the transport, the
headers of the response, an error of the service, or a body that has no text or is not what was
expected.
-/

namespace TenantApi

inductive Failure where
  | argument (fault : Argument.Fault)
  | request (fault : Request.Fault)
  /-- The connection is closed. -/
  | closed
  /-- The transport gave up, with a kind of failure and a text of its own. -/
  | transport (kind message : String)
  /-- The address has no scheme, so no cookies can be taken from its response. -/
  | noScheme (address : String)
  /-- No request can be made to the place that the response points to. -/
  | redirection (fault : Redirect.Fault)
  | quota (fault : Quota.TooManyDigits)
  | service (error : ApiError)
  /-- The text of the body is needed, and its charset refuses. -/
  | undecodable (refusal : Charset.Refusal)
  /-- The body does not fit the model of the answer. -/
  | mismatch (issues : List Schema.Issue)
  | jobErrors (refusal : JobErrors.Refusal)
  | token (expected : IdToken.Expected) (failure : IdToken.Failure)

def Failure.message : Failure → LooseText
  | .argument fault => fault.message
  | .request fault => fault.message
  | .closed => "Cannot send a request, as the client has been closed."
  | .transport _ message => message
  | .noScheme address => "unknown url type: " ++ Text.quotedString address
  | .redirection fault => fault.message
  | .quota fault => Json.tooManyDigitsText fault.count
  | .service error => error.message
  | .undecodable refusal => refusal.message
  | .mismatch _ => ""
  | .jobErrors refusal => refusal.message
  | .token expected failure => failure.message expected

end TenantApi
