import TenantApi.Header
import TenantApi.Http.Charset
import TenantApi.Http.Reason
import TenantApi.Json.Bytes

/-!
Responses. The body of a response is a structured value if it can be read as one, else its text;
an empty body is null. Only when its text is needed and its charset refuses there is no such value.
What is called the body is the content: a content encoding is undone before a response is one.
-/

namespace TenantApi

structure Response where
  status : Int
  fields : Fields
  body : Octets
  /-- The phrase beside the status, when the server sent one. -/
  reason : Option String
  deriving Repr

namespace Response

variable [Platform]

def field? (response : Response) (name : String) : Option String :=
  match response.fields.filter fun field => Header.sameName field.1 name with
  | [] => none
  | fields => some (", ".intercalate (fields.map Prod.snd))

def charset (response : Response) : Charset :=
  Charset.ofContentType (response.field? "content-type")

def text (response : Response) : Except Charset.Refusal LooseText :=
  if response.body.isEmpty then .ok ""
  else response.charset.decode response.body

def value (response : Response) : Except Charset.Refusal Json :=
  if response.body.isEmpty then .ok .null
  else match Json.ofBytes response.body with
    | .ok value => .ok value
    | .error _ => response.text.map .string

/-- The phrase that was sent, its ASCII characters alone, or else the standard one. -/
def reasonText (response : Response) : String :=
  match response.reason with
  | some reason => String.ofList (reason.toList.filter Text.isAsciiChar)
  | none => Http.reasonPhrase response.status

def isFailure (response : Response) : Bool := 400 ≤ response.status

def redirectStatuses : List Int := [301, 302, 303, 307, 308]

def redirection? (response : Response) : Option String :=
  if redirectStatuses.contains response.status then response.field? "location" else none

end Response

end TenantApi
