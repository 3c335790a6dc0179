import TenantApi.Schema.Reader

/-!
Encryption keys of a tenant.
-/

namespace TenantApi.Resource

open Schema

def encryptionKey : Model := ⟨"EncryptionKey", true, [
  nullable "kid" .text, nullable "type" .text, nullable "state" .text,
  nullable "created_at" .moment, nullable "updated_at" .moment, nullable "parent_kid" .text,
  nullable "public_key" .text]⟩

end TenantApi.Resource
