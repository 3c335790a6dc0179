import TenantApi.Proofs.KeyText
import TenantApi.Proofs.TokenClaims

/-!
What comes of a token when it is not accepted. Nothing in the token itself is more than a reason for
a refusal, whatever its claims are. Two failures are of the caller's making: a secret in the form of
an asymmetric key, which comes to light once the header is in order, and a leeway that has no sum
with the clock, which comes to light once the first time has been read.
-/

namespace TenantApi.IdToken

/-- Outcomes that say what is wrong with the token, if anything is. -/
def Contained (outcome : Except Failure Members) : Prop :=
  (∃ claims, outcome = .ok claims) ∨ ∃ refusal, outcome = .error (.refused refusal)

structure HeaderFits (header : Members) : Prop where
  keyId : ∀ value, header.lookup (.plain "kid") = some value → ∃ name, value = .string name
  critical : ∀ value, header.lookup (.plain "crit") = some value →
    ∃ items, value = .array items ∧ items ≠ [] ∧
      ∀ item ∈ items, item = .string "b64" ∧ header.lookup (.plain "b64") ≠ none

/-- A token that can be taken apart, with a header that is in order. Nothing is said of what its
payload and signature are. -/
structure Presentable (token : List Char) (segments : Segments) (header : Members) : Prop where
  lastPoint : token = segments.signed ++ '.' :: segments.signature
  noLaterPoint : '.' ∉ segments.signature
  firstPoint : segments.signed = segments.header ++ '.' :: segments.payload
  noEarlierPoint : '.' ∉ segments.header
  headerObject : EncodesObject segments.header header
  payloadBytes : Base64.decode segments.payload ≠ none
  signatureBytes : Base64.decode segments.signature ≠ none
  fits : HeaderFits header
  attached : header.lookup (.plain "b64") ≠ some (.bool false)
  algorithm : header.lookup (.plain "alg") = some (.string "HS256")

structure Timed (claims : Members) : Prop where
  required : ∀ name ∈ ["exp", "iat", "iss", "aud", "sub"],
    ∃ value, claims.lookup (.plain name) = some value ∧ value ≠ .null
  issuedAt : ∃ time, (claims.lookup (.plain "iat")).bind timeOf? = some time

def OutOfRange (leeway : Number) : Prop :=
  ∃ n : Int, leeway = .whole n ∧ 2 ^ 1024 - 2 ^ 970 ≤ n.natAbs

def MeetsKey (token : List Char) (expected : Expected) : Prop :=
  (∃ segments header, Presentable token segments header) ∧ KeyText expected.secret.toList

/-- The clock comes into play, and the leeway has no sum with it. -/
def MeetsLeeway (token : List Char) (expected : Expected) : Prop :=
  (∃ segments header claims, Authentic expected.secret token segments header claims ∧
    Usable expected.secret header ∧ Timed claims) ∧ OutOfRange expected.leeway

theorem contained_ok (claims : Members) : Contained (.ok claims) := .inl ⟨claims, rfl⟩

theorem contained_refused (refusal : Refusal) : Contained (.error (.refused refusal)) :=
  .inr ⟨refusal, rfl⟩

theorem contained_apart {outcome : Except Failure Members} (contained : Contained outcome) :
    outcome ≠ .error .asymmetricSecret ∧ outcome ≠ .error .leewayTooLarge := by
  rcases contained with ⟨claims, rfl⟩ | ⟨refusal, rfl⟩ <;> simp

section Headers
variable {header : Members} {found : Option Json}

theorem keyId_check :
    (match found with
      | none | some (.string _) => true
      | some _ => false : Bool) = true ↔
      ∀ value, found = some value → ∃ name, value = .string name := by
  cases found with
  | none => simp
  | some value => cases value <;> simp

theorem critical_iff (items : List Json) :
    checkCritical header items = .ok () ↔
      ∀ item ∈ items, item = .string "b64" ∧ header.lookup (.plain "b64") ≠ none := by
  induction items with
  | nil => simp [checkCritical]
  | cons item rest ih =>
      rw [List.forall_mem_cons, ← ih]
      cases item with
      | string name =>
          by_cases known : name = .plain "b64"
          · subst known
            cases found : header.lookup (.plain "b64") <;>
              simp [checkCritical, knownExtension, found]
          · simp [checkCritical, knownExtension, known]
      | _ => simp [checkCritical]

theorem critical_check :
    (match found with
      | none => .ok ()
      | some (.array (name :: names)) => checkCritical header (name :: names)
      | some _ => .error .criticalNotList : Except Rejection Unit) = .ok () ↔
      ∀ value, found = some value → ∃ items, value = .array items ∧ items ≠ [] ∧
        ∀ item ∈ items, item = .string "b64" ∧ header.lookup (.plain "b64") ≠ none := by
  cases found with
  | none => simp
  | some value =>
      cases value with
      | array items =>
          cases items with
          | nil => simp
          | cons item items => simp [critical_iff]
      | _ => simp

theorem gate_iff {passes : Bool} {rejection : Rejection} {rest : Except Rejection Unit} :
    (if !passes then .error rejection else rest) = .ok () ↔ passes = true ∧ rest = .ok () := by
  cases passes <;> simp

theorem header_iff : checkHeader header = .ok () ↔ HeaderFits header := by
  refine gate_iff.trans ⟨?_, ?_⟩
  · rintro ⟨named, listed⟩
    exact ⟨keyId_check.mp named, critical_check.mp listed⟩
  · rintro ⟨keyId, critical⟩
    exact ⟨keyId_check.mpr keyId, critical_check.mpr critical⟩

end Headers

section Verifying
variable {secret : String} {token : List Char} {segments : Segments} {header : Members}

-- The secret is looked at last but two: only the signature and the payload come after it.
theorem verified_contained (secret : String) (token : List Char) :
    Contained (verified secret token) ∨
      (∃ segments header, Presentable token segments header) ∧
        isAsymmetricKey secret.toList = true := by
  have ends := verified_ends secret token
  generalize verified secret token = outcome at ends ⊢
  cases ends with
  | @key parsed admitted key =>
      obtain ⟨segments, cut, headerObject, payloadBytes, signatureBytes, _⟩ :=
        parse_iff.mp admitted.taken
      obtain ⟨lastPoint, noLaterPoint, firstPoint, noEarlierPoint⟩ := segments_iff.mp cut
      exact .inr ⟨⟨segments, parsed.header, lastPoint, noLaterPoint, firstPoint, noEarlierPoint,
        headerObject, by simp [payloadBytes], by simp [signatureBytes],
        header_iff.mp admitted.headerFits, admitted.attached,
        algorithm_iff.mp admitted.algorithmFits⟩, key⟩
  | @claims _ claims _ _ _ _ => exact .inl (contained_ok claims)
  | _ => exact .inl (contained_refused _)

theorem presentable_verified (presentable : Presentable token segments header)
    (key : isAsymmetricKey secret.toList = true) :
    verified secret token = .error .asymmetricSecret := by
  obtain ⟨payload, payloadBytes⟩ := Option.ne_none_iff_exists'.mp presentable.payloadBytes
  obtain ⟨signature, signatureBytes⟩ := Option.ne_none_iff_exists'.mp presentable.signatureBytes
  have cut := segments_iff.mpr ⟨presentable.lastPoint, presentable.noLaterPoint,
    presentable.firstPoint, presentable.noEarlierPoint⟩
  have taken : parse token = .ok ⟨header, payload, signature, segments.signed⟩ :=
    parse_iff.mpr ⟨segments, cut, presentable.headerObject, payloadBytes, signatureBytes, rfl⟩
  simp [verified, taken, header_iff.mpr presentable.fits, presentable.attached,
    algorithm_iff.mpr presentable.algorithm, key]

end Verifying

section Clocks
variable {claims : Members} {expected : Expected}

theorem reaches_iff : reachesClock claims = true ↔ Timed claims := by
  simp only [reachesClock, Bool.and_eq_true, Option.isNone_iff_eq_none, missing_none_iff,
    Option.isSome_iff_exists]
  constructor
  · rintro ⟨required, issuedAt⟩
    exact ⟨required, issuedAt⟩
  · rintro ⟨required, issuedAt⟩
    exact ⟨required, issuedAt⟩

theorem floatBound_eq : Number.floatBound = 2 ^ 1024 - 2 ^ 970 := by
  decide +kernel

theorem apart_iff : expected.clock.combines expected.leeway = false ↔
    OutOfRange expected.leeway := by
  rw [OutOfRange, ← floatBound_eq]
  cases expected.leeway <;> simp [Expected.clock, Number.combines, Number.isWithinFloats]

end Clocks

section Decoding
variable {token : String} {expected : Expected}

theorem decode_key (given : token ≠ "") (secret : expected.secret ≠ "")
    (client : expected.clientId ≠ "") (key : MeetsKey token.toList expected) :
    decode token expected = .error .asymmetricSecret := by
  obtain ⟨⟨segments, header, presentable⟩, key⟩ := key
  have failed := presentable_verified presentable ((asymmetric_iff _).mpr key)
  simp [decode, given, secret, client, failed]

theorem decode_leeway (given : token ≠ "") (secret : expected.secret ≠ "")
    (client : expected.clientId ≠ "") (leeway : MeetsLeeway token.toList expected) :
    decode token expected = .error .leewayTooLarge := by
  obtain ⟨⟨segments, header, claims, authentic, usable, timed⟩, apart⟩ := leeway
  have read := authentic_verified authentic usable
  have reached := reaches_iff.mpr timed
  have uncombined := apart_iff.mpr apart
  simp [decode, given, secret, client, read, reached, uncombined]

theorem decode_contained (given : token ≠ "") (secret : expected.secret ≠ "")
    (client : expected.clientId ≠ "") :
    Contained (decode token expected) ∨ MeetsKey token.toList expected ∨
      MeetsLeeway token.toList expected := by
  rcases verified_contained expected.secret token.toList with
    (⟨claims, read⟩ | ⟨refusal, failed⟩) | ⟨presentable, key⟩
  · obtain ⟨segments, header, authentic, usable⟩ := verified_authentic read
    simp only [decode, given, secret, client, ↓reduceIte, read]
    split
    case isTrue beyond =>
      simp only [Bool.and_eq_true, Bool.not_eq_true', reaches_iff, apart_iff] at beyond
      exact .inr (.inr ⟨⟨segments, header, claims, authentic, usable, beyond.1⟩, beyond.2⟩)
    case isFalse =>
      left
      split
      case h_1 => exact contained_refused _
      case h_2 => exact contained_ok claims
  · left
    simp only [decode, given, secret, client, ↓reduceIte, failed]
    exact contained_refused refusal
  · exact .inr (.inl ⟨presentable, (asymmetric_iff _).mp key⟩)

-- Whatever a token says, a call with all it needs ends in the claims or in a refusal, but for the
-- two failures that the secret and the leeway bring about.
theorem decode_contained_iff (given : token ≠ "") (secret : expected.secret ≠ "")
    (client : expected.clientId ≠ "") :
    (decode token expected = .error .asymmetricSecret ↔ MeetsKey token.toList expected) ∧
      (decode token expected = .error .leewayTooLarge ↔ MeetsLeeway token.toList expected) ∧
      (Contained (decode token expected) ↔
        ¬MeetsKey token.toList expected ∧ ¬MeetsLeeway token.toList expected) := by
  rcases decode_contained given secret client with contained | key | leeway
  · obtain ⟨notKey, notLeeway⟩ := contained_apart contained
    have noKey : ¬MeetsKey token.toList expected :=
      fun key => notKey (decode_key given secret client key)
    have noLeeway : ¬MeetsLeeway token.toList expected :=
      fun leeway => notLeeway (decode_leeway given secret client leeway)
    simp [contained, notKey, notLeeway, noKey, noLeeway]
  · have failed := decode_key given secret client key
    have noLeeway : ¬MeetsLeeway token.toList expected := by
      intro leeway
      simp [decode_leeway given secret client leeway] at failed
    simp [failed, key, noLeeway, Contained]
  · have failed := decode_leeway given secret client leeway
    have noKey : ¬MeetsKey token.toList expected := by
      intro key
      simp [decode_key given secret client key] at failed
    simp [failed, leeway, noKey, Contained]

end Decoding

section Example

def keyedToken : String :=
  "eyJhbGciOiJIUzI1NiIsInR5cCI6IkpXVCJ9.eyJpc3MiOiJodHRwczovL3RlbmFudC5hdXRoMC5jb20vIiwic3V" ++
    "iIjoiYXV0aDB8dXNlcl8xIiwiYXVkIjoiY2xpZW50X2FiYyIsImlhdCI6MTcwMDAwMDAwMCwiZXhwIjoxNzAwMDA" ++
    "zNjAwLCJlbWFpbCI6ImphbmVAZXhhbXBsZS5jb20ifQ.1IhZpTm8-aM8b2DkJzhwRovkYc8P8Ap2nYatcV8OcsI"

def keyedExpected : Expected :=
  ⟨"ssh-rsa AAAAB3NzaC1yc2EAAAADAQABAAABgQC", "client_abc", "https://tenant.auth0.com/",
    .whole 60, .broken 1700000000⟩

theorem keyed_failure : decode keyedToken keyedExpected = .error .asymmetricSecret := by
  decide +kernel

theorem decode_contained_iff_example :
    (keyedToken ≠ "" ∧ keyedExpected.secret ≠ "" ∧ keyedExpected.clientId ≠ "") ∧
      MeetsKey keyedToken.toList keyedExpected := by
  have given : keyedToken ≠ "" := by decide
  have secret : keyedExpected.secret ≠ "" := by decide
  have client : keyedExpected.clientId ≠ "" := by decide
  have conditions := decode_contained_iff given secret client
  exact ⟨⟨given, secret, client⟩, conditions.1.mp keyed_failure⟩

theorem asymmetric_secret_uncontained : ¬Contained (decode keyedToken keyedExpected) := by
  intro contained
  exact (contained_apart contained).1 keyed_failure

end Example

end TenantApi.IdToken
