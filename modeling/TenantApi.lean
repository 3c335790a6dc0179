import TenantApi.ApiError
import TenantApi.Connection
import TenantApi.Correlation
import TenantApi.Holdings
import TenantApi.IdToken.Claims
import TenantApi.JobErrors
import TenantApi.Log.Line
import TenantApi.Log.Setup
import TenantApi.Operation
import TenantApi.Proofs.ArgumentRefusal
import TenantApi.Proofs.CallRecords
import TenantApi.Proofs.ErrorFamily
import TenantApi.Proofs.HeaderGroups
import TenantApi.Proofs.JobErrorCalls
import TenantApi.Proofs.JobErrorContent
import TenantApi.Proofs.JobErrorOutcomes
import TenantApi.Proofs.LevelNames
import TenantApi.Proofs.LimitedCalls
import TenantApi.Proofs.LogLine
import TenantApi.Proofs.Ownership
import TenantApi.Proofs.PathContainment
import TenantApi.Proofs.PathSegment
import TenantApi.Proofs.QueryParams
import TenantApi.Proofs.QuotaRefusal
import TenantApi.Proofs.QuotaSlots
import TenantApi.Proofs.RateLimitFields
import TenantApi.Proofs.RateLimitRun
import TenantApi.Proofs.RequestPayload
import TenantApi.Proofs.Scopes
import TenantApi.Proofs.SentFields
import TenantApi.Proofs.SignInAnswers
import TenantApi.Proofs.TenantIssuer
import TenantApi.Proofs.WireValues
import TenantApi.Quota
import TenantApi.RateLimit
import TenantApi.Resource.Catalogue
import TenantApi.Session
import TenantApi.Settings.Basic
import TenantApi.Url.Basic
import TenantApi.WireEnum
