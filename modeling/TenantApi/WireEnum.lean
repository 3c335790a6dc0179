import TenantApi.Json.Display

/-!
Enumerations and their wire strings. A member has a name and the exact string that is sent and
accepted for it. `ofWire?` finds the member of a string, and `ofJson` that of any value: only a
string that is equal to a member's, in every letter, has one.
-/

namespace TenantApi

structure Member where
  name : String
  wire : String
  deriving DecidableEq, Repr

structure WireEnum where
  name : String
  members : List Member
  deriving DecidableEq, Repr

namespace WireEnum

def wires (e : WireEnum) : List String := e.members.map Member.wire

def ofWire? (e : WireEnum) (wire : String) : Option Member :=
  e.members.find? fun member => member.wire == wire

structure Unknown where
  value : Json
  enum : WireEnum
  deriving DecidableEq, Repr

def Unknown.message (error : Unknown) : String :=
  match error.value.quotedText? with
  | some shown => shown ++ " is not a valid " ++ error.enum.name ++ "; expected one of: " ++
      String.intercalate ", " error.enum.wires
  | none => Decimal.unwritableText

def ofJson (e : WireEnum) (value : Json) : Except Unknown Member :=
  match value with
  | .string (.plain wire) => match e.ofWire? wire with
    | some member => .ok member
    | none => .error ⟨value, e⟩
  | _ => .error ⟨value, e⟩

def base : WireEnum := ⟨"WireEnum", []⟩

def logoutInitiator : WireEnum := ⟨"LogoutInitiator", [
  ⟨"RP_LOGOUT", "rp-logout"⟩, ⟨"IDP_LOGOUT", "idp-logout"⟩,
  ⟨"PASSWORD_CHANGED", "password-changed"⟩, ⟨"SESSION_EXPIRED", "session-expired"⟩,
  ⟨"SESSION_REVOKED", "session-revoked"⟩, ⟨"ACCOUNT_DELETED", "account-deleted"⟩,
  ⟨"EMAIL_IDENTIFIER_CHANGED", "email-identifier-changed"⟩]⟩

def clientGrantSubjectType : WireEnum := ⟨"ClientGrantSubjectType", [
  ⟨"CLIENT", "client"⟩, ⟨"USER", "user"⟩]⟩

def organizationUsage : WireEnum := ⟨"OrganizationUsage", [
  ⟨"DENY", "deny"⟩, ⟨"ALLOW", "allow"⟩, ⟨"REQUIRE", "require"⟩]⟩

def setUserRootAttributes : WireEnum := ⟨"SetUserRootAttributes", [
  ⟨"ON_EACH_LOGIN", "on_each_login"⟩, ⟨"ON_FIRST_LOGIN", "on_first_login"⟩,
  ⟨"NEVER_ON_LOGIN", "never_on_login"⟩]⟩

def userPolicy : WireEnum := ⟨"SubjectTypeAuthorizationUserPolicy", [
  ⟨"ALLOW_ALL", "allow_all"⟩, ⟨"REQUIRE_CLIENT_GRANT", "require_client_grant"⟩,
  ⟨"DENY_ALL", "deny_all"⟩]⟩

def clientPolicy : WireEnum := ⟨"SubjectTypeAuthorizationClientPolicy", [
  ⟨"REQUIRE_CLIENT_GRANT", "require_client_grant"⟩, ⟨"DENY_ALL", "deny_all"⟩]⟩

def usersExportFormat : WireEnum := ⟨"UsersExportsJobFormat", [⟨"JSON", "json"⟩, ⟨"CSV", "csv"⟩]⟩

def passwordlessEmailType : WireEnum := ⟨"PasswordlessEmailRequestType", [
  ⟨"LINK", "link"⟩, ⟨"CODE", "code"⟩]⟩

def all : List WireEnum := [
  base, logoutInitiator, clientGrantSubjectType, organizationUsage, setUserRootAttributes,
  userPolicy, clientPolicy, usersExportFormat, passwordlessEmailType]

def named? (name : String) : Option WireEnum := all.find? fun e => e.name == name

end WireEnum

end TenantApi
