import TenantApi.Bytes.Base64
import TenantApi.Bytes.Sha256
import TenantApi.IdToken.Basic
import TenantApi.Text.Split

/-!
Signed tokens in compact form: three segments in Base64 between points. The signature is over all
characters before the last point. A token is taken apart and its header checked before the
signature is, and the signature before anything in the payload is looked at.
-/

namespace TenantApi.IdToken

structure Segments where
  header : List Char
  payload : List Char
  signature : List Char
  /-- All characters before the last point. -/
  signed : List Char
  deriving DecidableEq, Repr

/-- Cuts a token at its first and last point; the payload segment may hold further ones. -/
def segments? (token : List Char) : Option Segments :=
  match Text.cutLast '.' token with
  | none => none
  | some (signed, signature) =>
      match Text.cutFirst '.' signed with
      | none => none
      | some (header, payload) => some ⟨header, payload, signature, signed⟩

structure Parsed where
  header : Members
  payload : Octets
  signature : Octets
  signed : List Char

def parse (token : List Char) : Except Malformed Parsed :=
  match segments? token with
  | none => .error .tooFewSegments
  | some segments => match Base64.decode segments.header with
    | none => .error .headerBytes
    | some headerBytes => match Json.ofBytes headerBytes with
      | .error error => .error (.headerText error)
      | .ok (.object header) => match Base64.decode segments.payload with
        | none => .error .payloadBytes
        | some payload => match Base64.decode segments.signature with
          | none => .error .signatureBytes
          | some signature => .ok ⟨header, payload, signature, segments.signed⟩
      | .ok _ => .error .headerNotObject

def knownExtension : String := "b64"

def checkCritical (header : Members) : List Json → Except Rejection Unit
  | [] => .ok ()
  | .string name :: rest =>
      if name ≠ knownExtension then .error (.criticalUnsupported name)
      else if (header.lookup name).isNone then .error (.criticalAbsent name)
      else checkCritical header rest
  | _ :: _ => .error .criticalNotText

def checkHeader (header : Members) : Except Rejection Unit :=
  let keyIdFits := match header.lookup (.plain "kid") with
    | none | some (.string _) => true
    | some _ => false
  if !keyIdFits then .error .keyIdNotText
  else match header.lookup (.plain "crit") with
    | none => .ok ()
    | some (.array (name :: names)) => checkCritical header (name :: names)
    | some _ => .error .criticalNotList

def algorithm : String := "HS256"

def checkAlgorithm (header : Members) : Except Rejection Unit :=
  match header.lookup (.plain "alg") with
  | none => .error .algorithmAbsent
  | some value => if value = .string algorithm then .ok () else .error .algorithmNotAllowed

def pemLabels : List String := [
  "CERTIFICATE", "TRUSTED CERTIFICATE", "PRIVATE KEY", "PUBLIC KEY", "ENCRYPTED PRIVATE KEY",
  "OPENSSH PRIVATE KEY", "DSA PRIVATE KEY", "RSA PRIVATE KEY", "RSA PUBLIC KEY",
  "EC PRIVATE KEY", "DH PARAMETERS", "NEW CERTIFICATE REQUEST", "CERTIFICATE REQUEST",
  "SSH2 PUBLIC KEY", "SSH2 ENCRYPTED PRIVATE KEY", "X509 CRL"]

def sshFormats : List String := [
  "ssh-ed25519", "ssh-rsa", "ssh-dss", "ecdsa-sha2-nistp256", "ecdsa-sha2-nistp384",
  "ecdsa-sha2-nistp521"]

def isDashOrBlank (c : Char) : Bool := c = '-' || c = ' '

def afterBoundary? (kind label : String) (text : List Char) : Option (List Char) := do
  let rest ← Text.dropPrefix? "----".toList text
  let rest ← if (rest.head?.any isDashOrBlank) then some (rest.drop 1) else none
  let rest ← Text.dropPrefix? (kind ++ " " ++ label).toList rest
  let rest ← if (rest.head?.any isDashOrBlank) then some (rest.drop 1) else none
  Text.dropPrefix? "----".toList rest

def afterLineEnd? : List Char → Option (List Char)
  | '\n' :: rest => some rest
  | '\r' :: '\n' :: rest => some rest
  | _ => none

def closesLater (label : String) : List Char → Bool
  | [] => false
  | c :: rest =>
      ((afterLineEnd? (c :: rest)).bind (afterBoundary? "END" label)).isSome ||
        closesLater label rest

/-- Whether an opening boundary, at least one character and a closing boundary begin here. -/
def opensHere (text : List Char) : Bool :=
  pemLabels.any fun label =>
    match (afterBoundary? "BEGIN" label text).bind afterLineEnd? with
    | some (_ :: rest) => closesLater label rest
    | _ => false

def isPem : List Char → Bool
  | [] => false
  | c :: rest => opensHere (c :: rest) || isPem rest

def isAsymmetricKey (secret : List Char) : Bool :=
  isPem secret || sshFormats.any fun format => Text.startsWith format.toList secret

def signatureOf (secret : String) (signed : List Char) : Octets :=
  Sha256.hmac (Utf8.encode secret.toList) (Utf8.encode signed)

def verified (secret : String) (token : List Char) : Except Failure Members :=
  match parse token with
  | .error cause => .error (.refused (.malformed cause))
  | .ok parsed => match checkHeader parsed.header with
    | .error cause => .error (.refused (.rejected cause))
    | .ok _ =>
        if parsed.header.lookup (.plain "b64") = some (.bool false) then
          .error (.refused (.malformed
            (if parsed.payload.isEmpty then .payloadAbsent else .payloadNotDetached)))
        else match checkAlgorithm parsed.header with
          | .error cause => .error (.refused (.rejected cause))
          | .ok _ =>
              if isAsymmetricKey secret.toList then .error .asymmetricSecret
              else if signatureOf secret parsed.signed ≠ parsed.signature then
                .error (.refused .signature)
              else match Json.ofBytes parsed.payload with
                | .error error => .error (.refused (.malformed (.payloadText error)))
                | .ok (.object claims) => .ok claims
                | .ok _ => .error (.refused (.malformed .payloadNotObject))

end TenantApi.IdToken
