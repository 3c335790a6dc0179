import TenantApi.Argument
import TenantApi.Settings.Basic
import TenantApi.Text.Split

/-!
Where a tenant's two APIs are. A domain may be given bare or as an address, with blanks around it
and slashes after it; without a scheme it is taken for a secure one. The management API is below
the authentication API. What is not given comes from the settings.
-/

namespace TenantApi.Tenant

def hasScheme (domain : List Char) : Bool :=
  Text.startsWith "http://".toList domain || Text.startsWith "https://".toList domain

/-- Without the blanks around it and then the slashes after it. -/
def bareDomain (domain : List Char) : List Char :=
  Text.trimEnd (· = '/') (Text.trim Text.isBlank domain)

def authenticationBase (settings : Settings) (domain : Option String) :
    Except Argument.Fault String :=
  let bare := bareDomain (Settings.orSetting domain settings.domain).toList
  if bare.isEmpty then .error .noDomain
  else .ok (String.ofList (if hasScheme bare then bare else "https://".toList ++ bare))

def managementPath : String := "/api/v2"

def managementBase (settings : Settings) (domain : Option String) :
    Except Argument.Fault String :=
  let bare := bareDomain (Settings.orSetting domain settings.domain).toList
  if bare.isEmpty then .error .noDomain
  else .ok (String.ofList
    ((if hasScheme bare then bare else "https://".toList ++ bare) ++ managementPath.toList))

def managementToken (settings : Settings) (token : Option String) :
    Except Argument.Fault String :=
  let token := Settings.orSetting token settings.managementToken
  if token = "" then .error .noToken else .ok token

end TenantApi.Tenant
