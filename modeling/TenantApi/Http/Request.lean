import TenantApi.Bytes.Base64
import TenantApi.Header
import TenantApi.Http.Body
import TenantApi.Json.Reader
import TenantApi.Text.Capitals
import TenantApi.Url.Basic

/-!
Requests. A call says what is asked for, relative to a base address and to the fields that every
request of a connection carries; preparing it gives the request or the first fault, in the order
address, fields, parameters, body. A field of the call replaces those of its name, whatever the
letter case, and the content type of the body stands back behind one that was given.
-/

namespace TenantApi

structure Call where
  method : String
  path : String
  params : Option Members
  content : Content
  fields : Fields
  deriving Repr

structure Request where
  method : String
  url : Url
  fields : Fields
  body : Body
  deriving Repr

namespace Request

variable [Platform]

inductive Fault where
  | url (fault : Url.Fault)
  | notAscii (fault : Text.NotAscii)
  | params (fault : Query.Fault)
  | body (fault : Body.Fault)
  deriving Repr

def Fault.message : Fault → String
  | .url fault => fault.message
  | .notAscii fault => fault.message
  | .params fault => fault.message
  | .body fault => fault.message

def address (base : Url) (path : String) : Except Url.Fault Url := do
  base.resolve (← Url.parse path.toList)

/-- Parameters replace the query of an address; when all of them are null there is no query. -/
def withParams (url : Url) (params : Option Members) : Except Fault Url :=
  match Query.cleaned params with
  | none => .ok url
  | some kept => match Query.fault? kept with
    | some fault => .error (.params fault)
    | none =>
        (url.withQuery (if kept.isEmpty then none else some (Query.encode kept))).mapError .url

def contentTypeName : String := "Content-Type"

def withContentType (fields : Fields) (body : Body) : Fields :=
  match body.contentType? with
  | none => fields
  | some contentType =>
      if Header.has fields contentTypeName then fields
      else fields ++ [(contentTypeName, contentType)]

def ofCall (base : Url) (own : Fields) (call : Call) : Except Fault Request := do
  let url ← (address base call.path).mapError .url
  let _ ← (Header.requireAscii call.fields).mapError .notAscii
  let url ← withParams url call.params
  let body ← (Body.ofContent call.content).mapError .body
  return {
    method := String.ofList (Text.upper call.method.toList)
    url
    fields := withContentType (Header.override own call.fields) body
    body }

def basicCredentials? (url : Url) : Option String :=
  let (user, password) := (Text.cutFirst ':' url.userInfo).getD (url.userInfo, [])
  if user.isEmpty && password.isEmpty then none
  else some ("Basic " ++ String.ofList (Base64.encodePadded
    (Utf8.encode (Url.decodeLossy user ++ ':' :: Url.decodeLossy password))))

/-- User information in the address takes the place of any other authorization. -/
def withCredentials (request : Request) : Request :=
  match basicCredentials? request.url with
  | none => request
  | some value => { request with
      fields := Header.override request.fields [("Authorization", value)] }

def transportFields : List String := [
  "host", "accept", "accept-encoding", "connection", "user-agent", "content-length",
  "transfer-encoding", "cookie"]

def ownFields (request : Request) : Fields :=
  ((request.fields.map fun field => (Header.lowerName field.1, field.2)).filter fun field =>
    !transportFields.contains field.1).mergeSort fun a b =>
      decide (a.1 < b.1) || (a.1 == b.1 && !decide (b.2 < a.2))

def isStructured (request : Request) : Bool :=
  (request.fields.find? fun field => Header.sameName field.1 contentTypeName).any fun field =>
    Text.trim Text.isBlank (Text.asciiLower (field.2.toList.takeWhile (· ≠ ';'))) =
      "application/json".toList

inductive Arrival where
  | nothing
  | structured (value : Json)
  | parts (parts : List Part)
  | text (text : String)
  deriving Repr

def arrival (request : Request) : Arrival :=
  match request.body with
  | .multipart parts => .parts parts
  | body =>
      if body.text = "" then .nothing
      else if request.isStructured then
        match body, Json.ofText body.text with
        | .json value, _ => .structured value
        | _, .ok value => .structured value
        | _, .error _ => .text body.text
      else .text body.text

end Request

end TenantApi
