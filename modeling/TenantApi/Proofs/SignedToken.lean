import TenantApi.IdToken.Signed
import TenantApi.Proofs.Base64
import TenantApi.Proofs.Text

/-!
What the form, header and signature of a token vouch for. A token is verified exactly when it can be
cut so that its header is an object that names the one algorithm, its signature is that of the
characters before the last point, and its payload is the object that is returned.
-/

namespace TenantApi.IdToken

def EncodesObject (segment : List Char) (members : Members) : Prop :=
  ∃ bytes, Base64.decode segment = some bytes ∧ Json.ofBytes bytes = .ok (.object members)

/-- A token cut at its first and last point, signed under a secret by the one algorithm. -/
structure Authentic (secret : String) (token : List Char) (segments : Segments)
    (header claims : Members) : Prop where
  lastPoint : token = segments.signed ++ '.' :: segments.signature
  noLaterPoint : '.' ∉ segments.signature
  firstPoint : segments.signed = segments.header ++ '.' :: segments.payload
  noEarlierPoint : '.' ∉ segments.header
  headerObject : EncodesObject segments.header header
  algorithm : header.lookup (.plain "alg") = some (.string "HS256")
  signature : Base64.decode segments.signature =
    some (Sha256.hmac (Utf8.encode secret.toList) (Utf8.encode segments.signed))
  payloadObject : EncodesObject segments.payload claims

def compact (secret : String) (header payload : Octets) : List Char :=
  let signed := Base64.encode header ++ '.' :: Base64.encode payload
  signed ++ '.' :: Base64.encode (signatureOf secret signed)

structure Usable (secret : String) (header : Members) : Prop where
  headerFits : checkHeader header = .ok ()
  attached : header.lookup (.plain "b64") ≠ some (.bool false)
  shared : isAsymmetricKey secret.toList = false

structure Admitted (token : List Char) (parsed : Parsed) : Prop where
  taken : parse token = .ok parsed
  headerFits : checkHeader parsed.header = .ok ()
  attached : parsed.header.lookup (.plain "b64") ≠ some (.bool false)
  algorithmFits : checkAlgorithm parsed.header = .ok ()

/-- How the checks of a token end: with the first that is not passed, or with its claims. -/
inductive Ends (secret : String) (token : List Char) : Except Failure Members → Prop where
  | malformed {cause : Malformed} (failed : parse token = .error cause) :
      Ends secret token (.error (.refused (.malformed cause)))
  | header {parsed : Parsed} {cause : Rejection} (taken : parse token = .ok parsed)
      (failed : checkHeader parsed.header = .error cause) :
      Ends secret token (.error (.refused (.rejected cause)))
  | payloadAbsent : Ends secret token (.error (.refused (.malformed .payloadAbsent)))
  | payloadNotDetached : Ends secret token (.error (.refused (.malformed .payloadNotDetached)))
  | algorithm {parsed : Parsed} {cause : Rejection} (taken : parse token = .ok parsed)
      (failed : checkAlgorithm parsed.header = .error cause) :
      Ends secret token (.error (.refused (.rejected cause)))
  | key {parsed : Parsed} (admitted : Admitted token parsed)
      (key : isAsymmetricKey secret.toList = true) : Ends secret token (.error .asymmetricSecret)
  | signature : Ends secret token (.error (.refused .signature))
  | payloadText {error : Json.BytesError} :
      Ends secret token (.error (.refused (.malformed (.payloadText error))))
  | payloadForm : Ends secret token (.error (.refused (.malformed .payloadNotObject)))
  | claims {parsed : Parsed} {claims : Members} (admitted : Admitted token parsed)
      (shared : isAsymmetricKey secret.toList = false)
      (same : signatureOf secret parsed.signed = parsed.signature)
      (object : Json.ofBytes parsed.payload = .ok (.object claims)) : Ends secret token (.ok claims)

section Form
variable {token : List Char} {segments : Segments}

theorem segments_iff :
    segments? token = some segments ↔
      token = segments.signed ++ '.' :: segments.signature ∧ '.' ∉ segments.signature ∧
        segments.signed = segments.header ++ '.' :: segments.payload ∧ '.' ∉ segments.header := by
  obtain ⟨header, payload, signature, signed⟩ := segments
  simp only [segments?]
  constructor
  · intro found
    split at found
    case h_1 => contradiction
    case h_2 left right last =>
      split at found
      case h_1 => contradiction
      case h_2 start middle first =>
        simp only [Option.some.injEq, Segments.mk.injEq] at found
        obtain ⟨rfl, rfl, rfl, rfl⟩ := found
        have outer := Text.cutLast_iff.mp last
        have inner := Text.cutFirst_iff.mp first
        exact ⟨outer.1, outer.2, inner.1, inner.2⟩
  · rintro ⟨whole, noLater, front, noEarlier⟩
    rw [Text.cutLast_iff.mpr ⟨whole, noLater⟩]
    simp only [Text.cutFirst_iff.mpr ⟨front, noEarlier⟩]

theorem parse_iff {parsed : Parsed} :
    parse token = .ok parsed ↔
      ∃ segments, segments? token = some segments ∧
        EncodesObject segments.header parsed.header ∧
        Base64.decode segments.payload = some parsed.payload ∧
        Base64.decode segments.signature = some parsed.signature ∧
        segments.signed = parsed.signed := by
  obtain ⟨header, payload, signature, signed⟩ := parsed
  simp only [parse]
  constructor
  · intro taken
    split at taken
    case h_1 => contradiction
    case h_2 segments cut =>
      split at taken
      case h_1 => contradiction
      case h_2 bytes headerBytes =>
        split at taken
        case h_1 => contradiction
        case h_3 => contradiction
        case h_2 members object =>
          split at taken
          case h_1 => contradiction
          case h_2 content payloadBytes =>
            split at taken
            case h_1 => contradiction
            case h_2 digest signatureBytes =>
              simp only [Except.ok.injEq, Parsed.mk.injEq] at taken
              obtain ⟨rfl, rfl, rfl, rfl⟩ := taken
              exact ⟨segments, cut, ⟨bytes, headerBytes, object⟩, payloadBytes, signatureBytes, rfl⟩
  · rintro ⟨segments, cut, ⟨bytes, headerBytes, object⟩, payloadBytes, signatureBytes, rfl⟩
    simp only [cut, headerBytes, object, payloadBytes, signatureBytes]

end Form

theorem algorithm_iff {header : Members} :
    checkAlgorithm header = .ok () ↔ header.lookup (.plain "alg") = some (.string "HS256") := by
  simp only [checkAlgorithm]
  cases found : header.lookup (.plain "alg") with
  | none => simp
  | some value => by_cases same : value = .string algorithm <;> simp_all [algorithm]

section Verifying
variable {secret : String} {token : List Char} {claims : Members}

-- One case for each check, with what is known by then; all that is known of the outcome is here.
theorem verified_ends (secret : String) (token : List Char) :
    Ends secret token (verified secret token) := by
  simp only [verified]
  split
  case h_1 cause failed => exact .malformed failed
  case h_2 parsed taken =>
    split
    case h_1 cause failed => exact .header taken failed
    case h_2 headerFits =>
      split
      case isTrue =>
        split
        case isTrue => exact .payloadAbsent
        case isFalse => exact .payloadNotDetached
      case isFalse attached =>
        split
        case h_1 cause failed => exact .algorithm taken failed
        case h_2 named =>
          have admitted : Admitted token parsed := ⟨taken, headerFits, attached, named⟩
          split
          case isTrue key => exact .key admitted key
          case isFalse shared =>
            split
            case isTrue => exact .signature
            case isFalse same =>
              split
              case h_1 => exact .payloadText
              case h_3 => exact .payloadForm
              case h_2 members object =>
                exact .claims admitted (by simpa using shared) (Decidable.not_not.mp same) object

theorem verified_authentic (accepted : verified secret token = .ok claims) :
    ∃ segments header, Authentic secret token segments header claims ∧ Usable secret header := by
  have ends := verified_ends secret token
  rw [accepted] at ends
  cases ends with
  | @claims parsed _ admitted shared same object =>
      obtain ⟨segments, cut, headerObject, payloadBytes, signatureBytes, signed⟩ :=
        parse_iff.mp admitted.taken
      obtain ⟨lastPoint, noLaterPoint, firstPoint, noEarlierPoint⟩ := segments_iff.mp cut
      refine ⟨segments, parsed.header, ?_, admitted.headerFits, admitted.attached, shared⟩
      refine ⟨lastPoint, noLaterPoint, firstPoint, noEarlierPoint, headerObject,
        algorithm_iff.mp admitted.algorithmFits, ?_, parsed.payload, payloadBytes, object⟩
      rw [signatureBytes, ← same, signed, signatureOf]

theorem authentic_verified {segments : Segments} {header : Members}
    (authentic : Authentic secret token segments header claims) (usable : Usable secret header) :
    verified secret token = .ok claims := by
  obtain ⟨payload, payloadBytes, object⟩ := authentic.payloadObject
  have cut := segments_iff.mpr ⟨authentic.lastPoint, authentic.noLaterPoint,
    authentic.firstPoint, authentic.noEarlierPoint⟩
  have taken : parse token = .ok ⟨header, payload, signatureOf secret segments.signed,
      segments.signed⟩ :=
    parse_iff.mpr ⟨segments, cut, authentic.headerObject, payloadBytes, authentic.signature, rfl⟩
  simp [verified, taken, usable.headerFits, usable.attached, usable.shared, object,
    algorithm_iff.mpr authentic.algorithm]

-- The signature is never worked out: it is read back as it was written.
theorem compact_authentic (secret : String) {header payload : Octets} {members : Members}
    (headerObject : Json.ofBytes header = .ok (.object members))
    (algorithm : members.lookup (.plain "alg") = some (.string "HS256"))
    (payloadObject : Json.ofBytes payload = .ok (.object claims)) :
    ∃ segments, Authentic secret (compact secret header payload) segments members claims := by
  have pointless (bytes : Octets) : '.' ∉ Base64.encode bytes :=
    fun member => (Base64.encode_plain bytes '.' member).2 rfl
  refine ⟨⟨Base64.encode header, Base64.encode payload, Base64.encode (signatureOf secret _), _⟩,
    rfl, pointless _, rfl, pointless _, ?_, algorithm, ?_, ?_⟩
  · exact ⟨header, Base64.decode_encode header, headerObject⟩
  · exact Base64.decode_encode _
  · exact ⟨payload, Base64.decode_encode payload, payloadObject⟩

end Verifying

end TenantApi.IdToken
