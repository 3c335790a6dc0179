import TenantApi.Json.Bytes
import TenantApi.Number
import TenantApi.Text.Quoted

/-!
What an ID token is checked against, and why one is refused. A refusal is a malformed token, a bad
signature, a claim that is missing or does not hold, or one of the rarer rejections, which are
logged as well. A secret that looks like a public key is not used at all, and neither is a leeway
beyond the range of the clock.
-/

namespace TenantApi.IdToken

structure Expected where
  secret : String
  clientId : String
  issuer : String
  leeway : Number
  now : Number

/-- What the clock shows: the time as a float, whatever it was given as. -/
def Expected.clock (expected : Expected) : Number := .broken expected.now.toFloat

inductive Malformed where
  | tooFewSegments
  | headerBytes
  | headerText (error : Json.BytesError)
  | headerNotObject
  | payloadBytes
  | signatureBytes
  | payloadNotDetached
  | payloadAbsent
  | payloadText (error : Json.BytesError)
  | payloadNotObject
  | notBeforeNotInteger
  | expirationNotInteger
  deriving DecidableEq, Repr

def Malformed.message : Malformed → String
  | .tooFewSegments => "Not enough segments"
  | .headerBytes => "Invalid header padding"
  | .headerText error => "Invalid header string: " ++ error.message
  | .headerNotObject => "Invalid header string: must be a json object"
  | .payloadBytes => "Invalid payload padding"
  | .signatureBytes => "Invalid crypto padding"
  | .payloadNotDetached => "Payload segment must be empty when 'b64' is false."
  | .payloadAbsent =>
      "It is required that you pass in a value for the \"detached_payload\" argument to decode " ++
        "a message having the b64 header set to false."
  | .payloadText error => "Invalid payload string: " ++ error.message
  | .payloadNotObject => "Invalid payload string: must be a json object"
  | .notBeforeNotInteger => "Not Before claim (nbf) must be an integer."
  | .expirationNotInteger => "Expiration Time claim (exp) must be an integer."

inductive Rejection where
  | keyIdNotText
  | criticalNotList
  | criticalNotText
  | criticalUnsupported (name : LooseText)
  | criticalAbsent (name : LooseText)
  | algorithmAbsent
  | algorithmNotAllowed
  | issuedAtNotInteger
  | subjectNotText
  | tokenIdNotText
  deriving DecidableEq, Repr

def Rejection.message : Rejection → LooseText
  | .keyIdNotText => "Key ID header parameter must be a string"
  | .criticalNotList => "Invalid 'crit' header: must be a non-empty list"
  | .criticalNotText => "Invalid 'crit' header: values must be strings"
  | .criticalUnsupported name => "Unsupported critical extension: " ++ name
  | .criticalAbsent name => "Critical extension '" ++ name ++ "' is missing from headers"
  | .algorithmAbsent => "Algorithm not specified"
  | .algorithmNotAllowed => "The specified alg value is not allowed"
  | .issuedAtNotInteger => "Issued At claim (iat) must be an integer."
  | .subjectNotText => "Subject must be a string"
  | .tokenIdNotText => "JWT ID must be a string"

inductive Refusal where
  | expired
  | notYetValid
  | audience
  | issuer
  | signature
  | missingClaim (name : String)
  | malformed (cause : Malformed)
  | rejected (cause : Rejection)
  deriving DecidableEq, Repr

def Refusal.message (expected : Expected) : Refusal → LooseText
  | .expired => "ID token has expired"
  | .notYetValid => "ID token is not valid yet"
  | .audience => "ID token audience does not include " ++ Text.quotedString expected.clientId
  | .issuer => "ID token was not issued by " ++ Text.quotedString expected.issuer
  | .signature => "ID token signature is invalid"
  | .missingClaim name =>
      "ID token is missing a claim: Token is missing the \"" ++ name ++ "\" claim"
  | .malformed cause => "ID token is malformed: " ++ cause.message
  | .rejected cause => "ID token is invalid: " ++ cause.message

inductive Failure where
  | emptyToken
  | emptySecret
  | emptyClientId
  | asymmetricSecret
  /-- The leeway has no sum with the time. -/
  | leewayTooLarge
  | refused (refusal : Refusal)
  deriving DecidableEq, Repr

def Failure.message (expected : Expected) : Failure → LooseText
  | .emptyToken => "id_token must be provided"
  | .emptySecret => "client_secret must be provided (or set AUTH0_CLIENT_SECRET)"
  | .emptyClientId => "client_id must be provided (or set AUTH0_CLIENT_ID)"
  | .asymmetricSecret =>
      "The specified key is an asymmetric key or x509 certificate and should not be used as an " ++
        "HMAC secret."
  | .leewayTooLarge => "int too large to convert to float"
  | .refused refusal => refusal.message expected

def Failure.logged? : Failure → Option LooseText
  | .refused (.rejected cause) => some cause.message
  | _ => none

end TenantApi.IdToken
