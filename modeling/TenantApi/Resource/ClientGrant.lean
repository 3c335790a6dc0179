import TenantApi.Schema.Reader

/-!
Client grants: which interfaces an application may request tokens for, and how they are changed.
-/

namespace TenantApi.Resource

open Schema

def clientGrant : Model := ⟨"ClientGrant", true, [
  nullable "id" .text, nullable "audience" .text, nullable "client_id" .text,
  nullable "scope" (.list .text),
  nullable "organization_usage" (.choice WireEnum.organizationUsage),
  nullable "allow_any_organization" .truth,
  nullable "subject_type" (.choice WireEnum.clientGrantSubjectType),
  nullable "authorization_details_types" (.list .text), nullable "allow_all_scopes" .truth]⟩

def clientGrantCreateRequest : Model := ⟨"ClientGrantCreateRequest", false, [
  required "audience" .text, required "client_id" .text,
  defaulted "scope" (.list []) (.list .text),
  nullable "organization_usage" (.choice WireEnum.organizationUsage),
  nullable "allow_any_organization" .truth,
  nullable "subject_type" (.choice WireEnum.clientGrantSubjectType),
  nullable "authorization_details_types" (.list .text), nullable "allow_all_scopes" .truth]⟩

def clientGrantUpdateRequest : Model := ⟨"ClientGrantUpdateRequest", false, [
  nullable "scope" (.list .text),
  nullable "organization_usage" (.choice WireEnum.organizationUsage),
  nullable "allow_any_organization" .truth,
  nullable "authorization_details_types" (.list .text), nullable "allow_all_scopes" .truth]⟩

end TenantApi.Resource
