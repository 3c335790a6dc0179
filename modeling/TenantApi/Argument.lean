import TenantApi.IpAddress
import TenantApi.Json.Basic
import TenantApi.Text.Quoted
import TenantApi.Url.Percent

/-!
Arguments of operations, and why one is refused before anything is sent. An identifier becomes one
segment of a path, whatever characters it has; an address literal becomes a header field; the
arguments of an import become a form.
-/

namespace TenantApi

namespace Argument

inductive Fault where
  | noDomain
  | noToken
  /-- An identifier that is empty or blank. -/
  | noIdentifier (name : String)
  | noConnection
  | notAddress (text : String)
  /-- Free-form data that nest too deep for a payload. -/
  | tooDeep
  deriving DecidableEq, Repr

def Fault.message : Fault → String
  | .noDomain => "domain must be provided (or set AUTH0_DOMAIN)"
  | .noToken => "token must be provided (or set AUTH0_MANAGEMENT_TOKEN)"
  | .noIdentifier name => name ++ " must be provided"
  | .noConnection => "connection_id must be provided"
  | .notAddress text =>
      "forwarded_for_ip must be a valid IPv4 or IPv6 address, got " ++ Text.quotedString text
  | .tooDeep => "Circular reference detected (depth exceeded)"

/-- An identifier as one segment of a path: all but the unreserved characters are escaped. -/
def pathSegment (name value : String) : Except Fault String :=
  if Text.isBlankText value.toList then .error (.noIdentifier name)
  else .ok (String.ofList (Url.escape Url.isUnreserved value.toList))

def forwardedForHeader : String := "auth0-forwarded-for"

def forwardedFor (address : Option String) : Except Fault (List (String × String)) :=
  match address with
  | none => .ok []
  | some text =>
      if text = "" then .ok []
      else if IpAddress.isLiteral text.toList then .ok [(forwardedForHeader, text)]
      else .error (.notAddress text)

structure ImportOptions where
  connectionId : String
  upsert : Bool
  sendCompletionEmail : Bool
  externalId : Option String

def importForm (options : ImportOptions) : Except Fault Members :=
  if options.connectionId = "" then .error .noConnection
  else
    let fixed : Members := [("connection_id", .string options.connectionId),
      ("upsert", .string (Json.truthWord options.upsert)),
      ("send_completion_email", .string (Json.truthWord options.sendCompletionEmail))]
    let external : Members :=
      options.externalId.toList.map fun id : String => ("external_id", .string id)
    .ok (fixed ++ external)

end Argument

end TenantApi
