import TenantApi.Resource.ClientGrant
import TenantApi.Resource.EncryptionKey
import TenantApi.Resource.Job
import TenantApi.Resource.Organization
import TenantApi.Resource.Passwordless
import TenantApi.Resource.ResourceServer

/-!
All models by name, and the payload of a checked request: every request is sent without its null
fields, apart from the passwordless ones, which have payloads of their own. Only those have a
payload however deep their data are.
-/

namespace TenantApi.Resource

open Schema

def models : List Model := [
  jobSummary, job, jobImportError, jobImportErrorDetails, emailVerificationIdentity,
  verifyEmailJobRequest, usersExportsJobField, usersExportsJobRequest,
  organizationBrandingColors, organizationBranding, tokenQuotaClientCredentials, tokenQuota,
  organization, organizationUpdateRequest, organizationAddMembersRequest,
  organizationDeleteMembersRequest, clientGrant, clientGrantCreateRequest,
  clientGrantUpdateRequest, subjectTypeAuthorizationUser, subjectTypeAuthorizationClient,
  subjectTypeAuthorization, resourceServer, resourceServerUpdateRequest, encryptionKey,
  passwordlessEmailRequest, passwordlessSmsRequest, passwordlessEmailResponse,
  passwordlessSmsResponse]

def model? (name : String) : Option Model := models.find? fun model => model.name == name

def requestPayload? (modelName : String) (request : Datum) : Option Json :=
  if modelName = passwordlessEmailRequest.name then some (emailPayload request)
  else if modelName = passwordlessSmsRequest.name then some (smsPayload request)
  else request.payload?

structure Submission where
  modelName : String
  data : Datum

def Submission.payload? (submission : Submission) : Option Json :=
  requestPayload? submission.modelName submission.data

end TenantApi.Resource
