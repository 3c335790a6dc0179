import TenantApi.Log.Event
import TenantApi.Proofs.TokenContainment

/-!
What a token gives away that nobody vouches for. The signature is checked after the form of a token
and before any of its claims, so that the report of a token whose form, algorithm or signature is
not in order is the same for every client, issuer, leeway and time. Only a token that is vouched for
comes as far as its claims, and from there on every failure is about them.
-/

namespace TenantApi.IdToken

open Fallible

inductive Refusal.OfClaims : Refusal → Prop where
  | missing (name : String) : OfClaims (.missingClaim name)
  | issuedAtForm : OfClaims (.rejected .issuedAtNotInteger)
  | notBeforeForm : OfClaims (.malformed .notBeforeNotInteger)
  | expirationForm : OfClaims (.malformed .expirationNotInteger)
  | early : OfClaims .notYetValid
  | late : OfClaims .expired
  | issuer : OfClaims .issuer
  | audience : OfClaims .audience
  | subject : OfClaims (.rejected .subjectNotText)
  | tokenId : OfClaims (.rejected .tokenIdNotText)

inductive Failure.OfClaims : Failure → Prop where
  | leeway : OfClaims .leewayTooLarge
  | refused {refusal : Refusal} (about : refusal.OfClaims) : OfClaims (.refused refusal)

/-- A token in due form that is signed by the one algorithm under a secret that may be shared. -/
def Vouched (secret token : String) : Prop :=
  ∃ segments header claims, Authentic secret token.toList segments header claims ∧
    HeaderFits header ∧ header.lookup (.plain "b64") ≠ some (.bool false) ∧ ¬KeyText secret.toList

structure Report where
  failure : Failure
  message : LooseText
  log : List Log.Event
  deriving DecidableEq

def report (token : String) (expected : Expected) : Except Report Members :=
  (decode token expected).mapError fun failure =>
    ⟨failure, failure.message expected, failure.logged?.toList.map .tokenRejected⟩

section Form
variable {header : Members}

theorem parse_form (token : List Char) :
    FailsOnly (fun cause => ¬Refusal.OfClaims (.malformed cause)) (parse token) := by
  simp only [parse]
  split
  case h_1 => exact failsOnly_error (by rintro ⟨⟩)
  case h_2 =>
    split
    case h_1 => exact failsOnly_error (by rintro ⟨⟩)
    case h_2 =>
      split
      case h_1 => exact failsOnly_error (by rintro ⟨⟩)
      case h_3 => exact failsOnly_error (by rintro ⟨⟩)
      case h_2 =>
        split
        case h_1 => exact failsOnly_error (by rintro ⟨⟩)
        case h_2 =>
          split
          case h_1 => exact failsOnly_error (by rintro ⟨⟩)
          case h_2 => exact failsOnly_ok _

theorem critical_form (items : List Json) :
    FailsOnly (fun cause => ¬Refusal.OfClaims (.rejected cause)) (checkCritical header items) := by
  induction items with
  | nil => exact failsOnly_ok ()
  | cons item rest ih =>
      cases item with
      | string name =>
          simp only [checkCritical]
          split
          case isTrue => exact failsOnly_error (by rintro ⟨⟩)
          case isFalse =>
            split
            case isTrue => exact failsOnly_error (by rintro ⟨⟩)
            case isFalse => exact ih
      | _ => exact failsOnly_error (by rintro ⟨⟩)

theorem gate_form {passes : Bool} {rejection : Rejection} {rest : Except Rejection Unit}
    {allowed : Rejection → Prop} (refused : allowed rejection) (others : FailsOnly allowed rest) :
    FailsOnly allowed (if !passes then .error rejection else rest) := by
  cases passes with
  | false => exact failsOnly_error refused
  | true => exact others

theorem header_form :
    FailsOnly (fun cause => ¬Refusal.OfClaims (.rejected cause)) (checkHeader header) := by
  apply gate_form
  case refused => rintro ⟨⟩
  case others =>
    split
    case h_1 => exact failsOnly_ok ()
    case h_2 name names _ => exact critical_form (name :: names)
    case h_3 => exact failsOnly_error (by rintro ⟨⟩)

theorem algorithm_form :
    FailsOnly (fun cause => ¬Refusal.OfClaims (.rejected cause)) (checkAlgorithm header) := by
  simp only [checkAlgorithm]
  split
  case h_1 => exact failsOnly_error (by rintro ⟨⟩)
  case h_2 =>
    split
    case isTrue => exact failsOnly_ok ()
    case isFalse => exact failsOnly_error (by rintro ⟨⟩)

theorem refused_form {refusal : Refusal} (form : ¬refusal.OfClaims) :
    ¬Failure.OfClaims (.refused refusal) := by
  rintro ⟨⟩
  contradiction

-- The order of the checks is all that matters: none of them looks into the payload until the
-- signature is in order, and then only for an object.
theorem verified_form (secret : String) (token : List Char) :
    FailsOnly (fun failure => ¬failure.OfClaims) (verified secret token) := by
  intro failure failed
  have ends := verified_ends secret token
  rw [failed] at ends
  cases ends with
  | @malformed cause unread => exact refused_form (parse_form token cause unread)
  | @header _ cause _ unfit => exact refused_form (header_form cause unfit)
  | @algorithm _ cause _ unfit => exact refused_form (algorithm_form cause unfit)
  | key => rintro ⟨⟩
  | _ => exact refused_form (by rintro ⟨⟩)

theorem vouched_iff {secret token : String} :
    Vouched secret token ↔ ∃ claims, verified secret token.toList = .ok claims := by
  constructor
  · rintro ⟨segments, header, claims, authentic, fits, attached, shared⟩
    refine ⟨claims, authentic_verified authentic ⟨header_iff.mpr fits, attached, ?_⟩⟩
    rw [← Bool.not_eq_true, asymmetric_iff]
    exact shared
  · rintro ⟨claims, accepted⟩
    obtain ⟨segments, header, authentic, fits, attached, shared⟩ := verified_authentic accepted
    refine ⟨segments, header, claims, authentic, header_iff.mp fits, attached, ?_⟩
    rw [← asymmetric_iff, Bool.not_eq_true]
    exact shared

end Form

section Claims
variable {expected : Expected} {claims : Members}

theorem test_claims {passes : Prop} [Decidable passes] {refusal : Refusal}
    (about : refusal.OfClaims) :
    FailsOnly Refusal.OfClaims (if passes then .ok () else .error refusal) := by
  split
  case isTrue => exact failsOnly_ok ()
  case isFalse => exact failsOnly_error about

theorem time_claims {found : Option Json} {unreadable untimely : Refusal} {wrong : Int → Bool}
    (form : unreadable.OfClaims) (time : untimely.OfClaims) :
    FailsOnly Refusal.OfClaims (match found with
      | none => .ok ()
      | some value => match timeOf? value with
        | none => .error unreadable
        | some time => if wrong time then .error untimely else .ok ()) := by
  split
  case h_1 => exact failsOnly_ok ()
  case h_2 =>
    split
    case h_1 => exact failsOnly_error form
    case h_2 =>
      split
      case isTrue => exact failsOnly_error time
      case isFalse => exact failsOnly_ok ()

theorem audience_claims : FailsOnly Refusal.OfClaims (checkAudience expected claims) := by
  simp only [checkAudience]
  split
  case isTrue => exact failsOnly_error (.missing "aud")
  case isFalse =>
    split
    case h_1 => exact failsOnly_error .audience
    case h_2 => exact test_claims .audience

theorem checkClaims_claims : FailsOnly Refusal.OfClaims (checkClaims expected claims) := by
  simp only [checkClaims]
  split
  case h_1 name _ => exact failsOnly_error (.missing name)
  case h_2 =>
    apply failsOnly_bind (time_claims .issuedAtForm .early)
    rintro ⟨⟩
    apply failsOnly_bind (time_claims .notBeforeForm .early)
    rintro ⟨⟩
    apply failsOnly_bind (time_claims .expirationForm .late)
    rintro ⟨⟩
    apply failsOnly_bind (test_claims .issuer)
    rintro ⟨⟩
    apply failsOnly_bind audience_claims
    rintro ⟨⟩
    apply failsOnly_bind (test_claims .subject)
    rintro ⟨⟩
    exact test_claims .tokenId

end Claims

section Reports
variable {secret token : String}

theorem vouched_given (vouched : Vouched secret token) : token ≠ "" := by
  rintro rfl
  obtain ⟨segments, header, claims, authentic, _⟩ := vouched
  have cut := authentic.lastPoint
  simp at cut

theorem vouched_claims {expected : Expected} (present : expected.secret ≠ "")
    (client : expected.clientId ≠ "") (vouched : Vouched expected.secret token) :
    FailsOnly Failure.OfClaims (decode token expected) := by
  obtain ⟨claims, read⟩ := vouched_iff.mp vouched
  simp only [decode, vouched_given vouched, present, client, ↓reduceIte, read]
  split
  case isTrue => exact failsOnly_error .leeway
  case isFalse =>
    split
    case h_1 refusal checked =>
      exact failsOnly_error (.refused (checkClaims_claims refusal checked))
    case h_2 => exact failsOnly_ok _

theorem unvouched_form (unvouched : secret = "" ∨ ¬Vouched secret token) :
    ∃ failure : Failure, ¬failure.OfClaims ∧
      ∀ expected : Expected, expected.secret = secret → expected.clientId ≠ "" →
        decode token expected = .error failure := by
  by_cases noToken : token = ""
  · refine ⟨.emptyToken, by rintro ⟨⟩, fun expected _ _ => ?_⟩
    simp [decode, noToken]
  by_cases noSecret : secret = ""
  · refine ⟨.emptySecret, by rintro ⟨⟩, fun expected same _ => ?_⟩
    simp [decode, noToken, same, noSecret]
  cases read : verified secret token.toList with
  | ok claims => exact absurd (vouched_iff.mpr ⟨claims, read⟩) (unvouched.resolve_left noSecret)
  | error failure =>
      refine ⟨failure, verified_form secret _ failure read, fun expected same client => ?_⟩
      subst same
      simp [decode, noToken, noSecret, client, read]

-- Two messages quote what was expected, and both are about claims.
theorem message_blind {failure : Failure} (form : ¬failure.OfClaims) (expected other : Expected) :
    failure.message expected = failure.message other := by
  cases failure with
  | refused refusal =>
      cases refusal with
      | audience => exact absurd (.refused .audience) form
      | issuer => exact absurd (.refused .issuer) form
      | _ => rfl
  | _ => rfl

-- The one report of an unvouched token depends on nothing but the token and the secret. For a token
-- that is vouched for there is no such report, whatever its claims are.
theorem report_blind_iff (secret token : String) :
    (∃ seen : Report, ¬seen.failure.OfClaims ∧ ∀ clientId issuer leeway now, clientId ≠ "" →
      report token ⟨secret, clientId, issuer, leeway, now⟩ = .error seen) ↔
      secret = "" ∨ ¬Vouched secret token := by
  constructor
  · rintro ⟨seen, form, blind⟩
    by_contra seesClaims
    obtain ⟨present, vouched⟩ := not_or.mp seesClaims
    have client : "client" ≠ "" := by decide
    have seenOnce := blind "client" "" (.whole 0) (.whole 0) client
    obtain ⟨failure, failed, rfl⟩ := mapError_error.mp seenOnce
    exact form (vouched_claims present client (not_not.mp vouched) failure failed)
  · intro unvouched
    obtain ⟨failure, form, fails⟩ := unvouched_form unvouched
    let first : Expected := ⟨secret, "client", "", .whole 0, .whole 0⟩
    refine ⟨⟨failure, failure.message first, failure.logged?.toList.map .tokenRejected⟩, form, ?_⟩
    intro clientId issuer leeway now client
    rw [report, fails _ rfl client, message_blind form first]
    rfl

-- A header that asks for no signature, over claims that are empty.
example : report "eyJhbGciOiJub25lIn0.e30." ⟨"secret", "client", "", .whole 0, .whole 0⟩ =
    .error ⟨.refused (.rejected .algorithmNotAllowed),
      "ID token is invalid: The specified alg value is not allowed",
      [.tokenRejected "The specified alg value is not allowed"]⟩ := by
  decide +kernel

end Reports

end TenantApi.IdToken
