import TenantApi.Schema.Reader

/-!
Resource servers: the interfaces registered in a tenant, with the access that user and client
flows have to them.
-/

namespace TenantApi.Resource

open Schema

def subjectTypeAuthorizationUser : Model := ⟨"SubjectTypeAuthorizationUser", false, [
  nullable "policy" (.choice WireEnum.userPolicy)]⟩

def subjectTypeAuthorizationClient : Model := ⟨"SubjectTypeAuthorizationClient", false, [
  nullable "policy" (.choice WireEnum.clientPolicy)]⟩

def subjectTypeAuthorization : Model := ⟨"SubjectTypeAuthorization", false, [
  nullable "user" subjectTypeAuthorizationUser.kind,
  nullable "client" subjectTypeAuthorizationClient.kind]⟩

def resourceServer : Model := ⟨"ResourceServer", true, [
  nullable "id" .text, nullable "name" .text, nullable "identifier" .text,
  nullable "signing_alg" .text, nullable "token_lifetime" .integer,
  nullable "allow_offline_access" .truth,
  nullable "subject_type_authorization" subjectTypeAuthorization.kind]⟩

def resourceServerUpdateRequest : Model := ⟨"ResourceServerUpdateRequest", false, [
  nullable "name" .text, nullable "signing_alg" .text, nullable "token_lifetime" .integer,
  nullable "allow_offline_access" .truth,
  nullable "subject_type_authorization" subjectTypeAuthorization.kind]⟩

end TenantApi.Resource
