import TenantApi.Decimal.Integer
import TenantApi.IdToken.Signed

/-!
Checking the claims of a verified token: the five required ones must be there and not null, the
times must fit the clock within the leeway, the issuer and the audience must be the expected ones,
and the subject and the token's own name must be text. The first check that fails decides.
-/

namespace TenantApi.IdToken

def requiredClaims : List String := ["exp", "iat", "iss", "aud", "sub"]

def missingClaim? (claims : Members) : Option String :=
  requiredClaims.find? fun name => (claims.lookup (.plain name)).getD .null = .null

/-- A time claim as an integer: floats lose their fraction, text is read liberally. -/
def timeOf? : Json → Option Int
  | .int value => some value
  | .bool value => some (if value then 1 else 0)
  | .float value => Decimal.truncate? value
  | .string (.plain value) => Decimal.readInteger value.toList
  | _ => none

def checkIssuedAt (expected : Expected) (claims : Members) : Except Refusal Unit :=
  match claims.lookup (.plain "iat") with
  | none => .ok ()
  | some value => match timeOf? value with
    | none => .error (.rejected .issuedAtNotInteger)
    | some time =>
        if (expected.clock.add expected.leeway).below time then .error .notYetValid else .ok ()

def checkNotBefore (expected : Expected) (claims : Members) : Except Refusal Unit :=
  match claims.lookup (.plain "nbf") with
  | none => .ok ()
  | some value => match timeOf? value with
    | none => .error (.malformed .notBeforeNotInteger)
    | some time =>
        if (expected.clock.add expected.leeway).below time then .error .notYetValid else .ok ()

def checkExpiration (expected : Expected) (claims : Members) : Except Refusal Unit :=
  match claims.lookup (.plain "exp") with
  | none => .ok ()
  | some value => match timeOf? value with
    | none => .error (.malformed .expirationNotInteger)
    | some time =>
        if (expected.clock.sub expected.leeway).atLeast time then .error .expired else .ok ()

def checkIssuer (expected : Expected) (claims : Members) : Except Refusal Unit :=
  if claims.lookup (.plain "iss") = some (.string expected.issuer) then .ok () else .error .issuer

def audiences? : Json → Option (List LooseText)
  | .string name => some [name]
  | .array items => items.mapM fun item => match item with
    | .string name => some name
    | _ => none
  | _ => none

def checkAudience (expected : Expected) (claims : Members) : Except Refusal Unit :=
  let audience := (claims.lookup (.plain "aud")).getD .null
  if !audience.isTruthy then .error (.missingClaim "aud")
  else match audiences? audience with
    | none => .error .audience
    | some names => if names.contains (.plain expected.clientId) then .ok () else .error .audience

def isText : Json → Bool
  | .string _ => true
  | _ => false

def checkSubject (claims : Members) : Except Refusal Unit :=
  if (claims.lookup (.plain "sub")).all isText then .ok () else .error (.rejected .subjectNotText)

def checkTokenId (claims : Members) : Except Refusal Unit :=
  if (claims.lookup (.plain "jti")).all isText then .ok () else .error (.rejected .tokenIdNotText)

def checkClaims (expected : Expected) (claims : Members) : Except Refusal Unit := do
  match missingClaim? claims with
  | some name => throw (.missingClaim name)
  | none => pure ()
  checkIssuedAt expected claims
  checkNotBefore expected claims
  checkExpiration expected claims
  checkIssuer expected claims
  checkAudience expected claims
  checkSubject claims
  checkTokenId claims

/-- Whether the checks come as far as the clock: nothing is missing and the first time is one. -/
def reachesClock (claims : Members) : Bool :=
  (missingClaim? claims).isNone && ((claims.lookup (.plain "iat")).bind timeOf?).isSome

def decode (token : String) (expected : Expected) : Except Failure Members :=
  if token = "" then .error .emptyToken
  else if expected.secret = "" then .error .emptySecret
  else if expected.clientId = "" then .error .emptyClientId
  else match verified expected.secret token.toList with
    | .error failure => .error failure
    | .ok claims =>
        if reachesClock claims && !expected.clock.combines expected.leeway then
          .error .leewayTooLarge
        else match checkClaims expected claims with
          | .error refusal => .error (.refused refusal)
          | .ok _ => .ok claims

def defaultLeeway : Number := .whole 60

end TenantApi.IdToken
