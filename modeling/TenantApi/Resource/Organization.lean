import TenantApi.Schema.Reader

/-!
Organizations with their branding and token quotas, and the requests on them and their members.
-/

namespace TenantApi.Resource

open Schema

def organizationBrandingColors : Model := ⟨"OrganizationBrandingColors", false, [
  nullable "primary" .text, nullable "page_background" .text]⟩

def organizationBranding : Model := ⟨"OrganizationBranding", false, [
  nullable "logo_url" .text, nullable "colors" organizationBrandingColors.kind]⟩

def tokenQuotaClientCredentials : Model := ⟨"TokenQuotaClientCredentials", false, [
  nullable "enforce" .truth, nullable "per_day" .integer, nullable "per_hour" .integer]⟩

def tokenQuota : Model := ⟨"TokenQuota", false, [
  nullable "client_credentials" tokenQuotaClientCredentials.kind]⟩

def organization : Model := ⟨"Organization", true, [
  nullable "id" .text, nullable "name" .text, nullable "display_name" .text,
  nullable "branding" organizationBranding.kind, nullable "metadata" .mapping,
  nullable "token_quota" tokenQuota.kind]⟩

def organizationUpdateRequest : Model := ⟨"OrganizationUpdateRequest", false, [
  nullable "display_name" .text, nullable "name" .text,
  nullable "branding" organizationBranding.kind, nullable "metadata" .mapping,
  nullable "token_quota" tokenQuota.kind]⟩

def organizationAddMembersRequest : Model := ⟨"OrganizationAddMembersRequest", false, [
  required "members" (.list .text)]⟩

def organizationDeleteMembersRequest : Model := ⟨"OrganizationDeleteMembersRequest", false, [
  required "members" (.list .text)]⟩

end TenantApi.Resource
