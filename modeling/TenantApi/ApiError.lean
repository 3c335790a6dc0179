import TenantApi.Http.Response
import TenantApi.Json.Display
import TenantApi.RateLimit

/-!
Errors of the service. Every status from 400 on is one error, whose kind the status alone decides.
Its text is the first that the body offers, or else the phrase of the status, so it is never empty.
-/

namespace TenantApi

namespace ApiError

inductive Kind where
  | general
  | badRequest
  | unauthorized
  | notFound
  | conflict
  | rateLimit
  deriving DecidableEq, Repr

def kinds : List (Int × Kind) := [
  (400, .badRequest), (401, .unauthorized), (403, .unauthorized), (404, .notFound),
  (409, .conflict), (422, .badRequest), (429, .rateLimit)]

def Kind.ofStatus (status : Int) : Kind := (kinds.lookup status).getD .general

end ApiError

structure ApiError where
  kind : ApiError.Kind
  status : Int
  /-- What went wrong, for a reader. -/
  detail : LooseText
  error : Json
  errorCode : Json
  /-- The body of the response. -/
  body : Json
  /-- The rate limit of the response; only errors of that kind have one. -/
  rateLimit : Option RateLimit
  deriving Repr

namespace ApiError

def message (error : ApiError) : LooseText :=
  .plain (String.ofList (Text.intDigits error.status) ++ ": ") ++ error.detail

def detailMembers : List String := ["message", "error_description", "description", "error"]

def unknownDetail : String := "Unknown error"

def fallbackDetail (response : Response) : String :=
  if response.reasonText = "" then unknownDetail else response.reasonText

def firstSet? (body : Json) : Option Json :=
  (detailMembers.filterMap fun name : String => body.get? name).find? Json.isTruthy

def detailOf (response : Response) (body : Json) : LooseText :=
  match body with
  | .object members => ((firstSet? (.object members)).map Json.displayPlain).getD
      (fallbackDetail response)
  | .string text => if text = .plain "" then fallbackDetail response else text
  | _ => fallbackDetail response

def ofResponse (response : Response) (body : Json) (rateLimit : Option RateLimit) : ApiError :=
  let kind := Kind.ofStatus response.status
  { kind
    status := response.status
    detail := detailOf response body
    error := (body.get? "error").getD .null
    errorCode := (body.get? "errorCode").getD .null
    body
    rateLimit := if kind = .rateLimit then rateLimit else none }

end ApiError

end TenantApi
