import TenantApi.Quota

/-!
Rate limits of a response: the global limit with the calls that remain and the second at which it
resets, and the quota limits of the client and of the organization. A response without any of the
five gives no rate limit at all.
-/

namespace TenantApi

structure RateLimit where
  limit : Option Int
  remaining : Option Int
  reset : Option Int
  client : Option Quota.Limits
  organization : Option Quota.Limits
  deriving DecidableEq, Repr

namespace RateLimit

def limitHeader : String := "X-Ratelimit-Limit"

def remainingHeader : String := "X-Ratelimit-Remaining"

def resetHeader : String := "X-Ratelimit-Reset"

def integer? (headers : Grouped) (name : String) : Option Int :=
  (Header.first? headers name).bind fun text => Decimal.readInteger text.toList

def isEmpty (info : RateLimit) : Bool :=
  info.limit.isNone && info.remaining.isNone && info.reset.isNone && info.client.isNone &&
    info.organization.isNone

/-- The rate limit in grouped headers, and the malformed quota segments in the order in which they
are met: the client's before the organization's. -/
def ofHeaders (headers : Option Grouped) : Quota.Reading (Option RateLimit) :=
  match headers with
  | none | some [] => ⟨.ok none, []⟩
  | some headers =>
      let client := Quota.clientLimits headers
      match client.result with
      | .error error => ⟨.error error, client.malformed⟩
      | .ok clientLimits =>
          let organization := Quota.organizationLimits headers
          match organization.result with
          | .error error => ⟨.error error, client.malformed ++ organization.malformed⟩
          | .ok organizationLimits =>
              let info : RateLimit :=
                ⟨integer? headers limitHeader, integer? headers remainingHeader,
                  integer? headers resetHeader, clientLimits, organizationLimits⟩
              ⟨.ok (if info.isEmpty then none else some info),
                client.malformed ++ organization.malformed⟩

def ofFields (fields : Fields) : Quota.Reading (Option RateLimit) :=
  ofHeaders (some (Header.grouped fields))

end RateLimit

end TenantApi
