import TenantApi.Schema.Reader

/-!
Passwordless sign-in by email or by text message. The payloads name the connection themselves, and
a client secret or parameters for the link are sent only when they are not empty.
-/

namespace TenantApi.Resource

open Schema

def linkMember : Member := ⟨"LINK", "link"⟩

def passwordlessEmailRequest : Model := ⟨"PasswordlessEmailRequest", false, [
  required "client_id" .text, required "email" .text, nullable "client_secret" .text,
  defaulted "type" (.choice linkMember) (.choice WireEnum.passwordlessEmailType),
  nullable "authentication_parameters" .mapping]⟩

def passwordlessSmsRequest : Model := ⟨"PasswordlessSmsRequest", false, [
  required "client_id" .text, required "phone_number" .text, nullable "client_secret" .text]⟩

def passwordlessEmailResponse : Model := ⟨"PasswordlessEmailResponse", true, [
  aliased "id" "_id" .text, nullable "email" .text, nullable "email_verified" .truth]⟩

def passwordlessSmsResponse : Model := ⟨"PasswordlessSmsResponse", true, [
  aliased "id" "_id" .text, nullable "phone_number" .text, nullable "phone_verified" .truth,
  nullable "request_language" .text]⟩

mutual

def plainJson : Datum → Json
  | .null => .null
  | .bool value => .bool value
  | .int value => .int value
  | .float value => .float value
  | .text value => .string value
  | .moment value => .string value.text
  | .choice member => .string member.wire
  | .list items => .array (plainItems items)
  | .mapping members => .object (plainEntries members)
  | .record fields extras => .object (plainEntries fields ++ plainEntries extras)

def plainItems : List Datum → List Json
  | [] => []
  | item :: rest => plainJson item :: plainItems rest

def plainEntries : Entries → Members
  | [] => []
  | (key, value) :: rest => (key, plainJson value) :: plainEntries rest

end

def secretMember (request : Datum) : Members :=
  let secret := request.textField "client_secret"
  if secret = .plain "" then [] else [("client_secret", .string secret)]

def emailPayload (request : Datum) : Json :=
  let named : Members := [("client_id", .string (request.textField "client_id")),
    ("connection", .string "email"), ("email", .string (request.textField "email")),
    ("send", .string (request.textField "type"))]
  let parameters : Members := match request.field "authentication_parameters" with
    | .mapping [] => []
    | .mapping entries => [("authParams", .object (plainEntries entries))]
    | _ => []
  .object (named ++ secretMember request ++ parameters)

def smsPayload (request : Datum) : Json :=
  let named : Members := [("client_id", .string (request.textField "client_id")),
    ("connection", .string "sms"), ("phone_number", .string (request.textField "phone_number"))]
  .object (named ++ secretMember request)

end TenantApi.Resource
