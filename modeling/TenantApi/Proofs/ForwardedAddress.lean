import TenantApi.Platform.Stock
import TenantApi.Proofs.AddressLiteral
import TenantApi.Proofs.CallOutcome
import TenantApi.Proofs.SentFields

/-!
Addresses of end users in header fields. Only a literal is passed on, and as it is, so it is fit for
a header exactly when its zone is: all else that it may consist of is visible. Of the zones that are
not fit, those beyond ASCII are held back before anything is sent, and blanks and controls are sent.
-/

namespace TenantApi

open Fallible (bind_ok mapError_ok)
open Header (has sameName valuesOf)
open Text (IsVisible)

namespace Request

variable [Platform] {base : Url} {own : Fields} {call : Call} {request : Request}
  {fields : Fields} {name value : String}

-- The fields of a call are looked at for themselves.
theorem ofCall_accepted (made : ofCall base own call = .ok request)
    (ascii : Header.requireAscii fields = .ok ()) :
    ∃ other, ofCall base own { call with fields } = .ok other := by
  simp only [ofCall, bind_ok, mapError_ok] at made ⊢
  obtain ⟨url, located, _, _, target, params, body, content, _⟩ := made
  exact ⟨_, url, located, (), ascii, target, params, body, content, rfl⟩

theorem ofCall_notAscii {fault : Text.NotAscii} (made : ofCall base own call = .ok request)
    (refused : Header.requireAscii fields = .error fault) :
    ofCall base own { call with fields } = .error (.notAscii fault) := by
  simp only [ofCall, bind_ok, mapError_ok] at made ⊢
  obtain ⟨url, located, _⟩ := made
  rw [located, refused]
  rfl

-- The one field of a call takes the place of every other field of its name.
theorem ofCall_replaces (made : ofCall base own call = .ok request)
    (only : call.fields = [(name, value)]) (other : sameName "Authorization" name = false) :
    valuesOf request.withCredentials.fields name = [value] := by
  have self : sameName name name = true := Header.sameName_iff.mpr rfl
  have unsigned : has (credentialFields request.url) name = false := by
    cases found : basicCredentials? request.url <;> simp [credentialFields, found, has, other]
  have there : has (Header.override own [(name, value)]) name = true := by
    simp [Header.override, has, self]
  rw [withCredentials_fields, ofCall_fields made, only, Header.valuesOf_eq,
    Header.fieldsOf_override, unsigned, if_neg (by decide), ← Header.valuesOf_eq,
    withContentType_there _ there, Header.valuesOf_eq, Header.fieldsOf_override]
  simp [has, Header.fieldsOf, self]

end Request

namespace Argument

variable {address : String} {fields : Fields}

-- No address is as good as none.
theorem forwardedFor_iff : forwardedFor (some address) = .ok fields ↔
    address = "" ∧ fields = [] ∨
      IpAddress.isLiteral address.toList = true ∧ fields = [("auth0-forwarded-for", address)] := by
  by_cases empty : address = ""
  · subst empty
    have foreign : IpAddress.isLiteral "".toList = false := by decide
    have nothing : forwardedFor (some "") = .ok [] := rfl
    rw [nothing, foreign, Except.ok.injEq]
    simp [eq_comm]
  · simp only [forwardedFor, empty, ↓reduceIte, false_and, false_or]
    split
    case isTrue literal => simp [literal, forwardedForHeader, eq_comm]
    case isFalse foreign => simp [foreign]

theorem forwardedFor_refused (given : address ≠ "")
    (foreign : IpAddress.isLiteral address.toList = false) :
    forwardedFor (some address) = .error (.notAddress address) := by
  simp [forwardedFor, given, foreign]

-- An address is passed on as it is when it is a literal, and refused by name otherwise.
theorem forwardedFor_grammar (given : address ≠ "") :
    (forwardedFor (some address) = .ok [("auth0-forwarded-for", address)] ↔
      IpAddress.IsLiteral address.toList) ∧
    (¬IpAddress.IsLiteral address.toList → ∃ fault rest,
      forwardedFor (some address) = .error fault ∧ fault.message = "forwarded_for_ip" ++ rest) := by
  rw [← IpAddress.literal_iff]
  constructor
  · rw [forwardedFor_iff]
    constructor
    · rintro (⟨nothing, _⟩ | ⟨literal, _⟩)
      · exact absurd nothing given
      · exact literal
    · intro literal
      exact .inr ⟨literal, rfl⟩
  · intro foreign
    rw [Bool.not_eq_true] at foreign
    refine ⟨_, " must be a valid IPv4 or IPv6 address, got " ++ Text.quotedString address,
      forwardedFor_refused given foreign, ?_⟩
    rw [← String.append_assoc]
    rfl

def translatedAddress : String := "64:ff9b::192.0.2.33%eth0"

def crowdedAddress : String := "1:2:3:4:5:6::1.2.3.4"

theorem forwardedFor_grammar_translated :
    (translatedAddress ≠ "" ∧ forwardedFor (some translatedAddress) =
      .ok [("auth0-forwarded-for", translatedAddress)]) ∧
    (crowdedAddress ≠ "" ∧ ∃ fault rest, forwardedFor (some crowdedAddress) = .error fault ∧
      fault.message = "forwarded_for_ip" ++ rest) := by
  have literal : IpAddress.IsLiteral translatedAddress.toList :=
    IpAddress.literal_iff.mp (by decide)
  have foreign : ¬IpAddress.IsLiteral crowdedAddress.toList := by
    rw [← IpAddress.literal_iff]
    decide
  refine ⟨⟨by decide, ?accepted⟩, by decide, ?refused⟩
  case accepted => exact (forwardedFor_grammar (by decide)).1.mpr literal
  case refused => exact (forwardedFor_grammar (by decide)).2 foreign

end Argument

namespace Operation

def signIns (submission : Resource.Submission) : List (Option String → Operation) :=
  [.startPasswordlessEmail submission, .startPasswordlessSms submission]

theorem signIn_call {submission : Resource.Submission} {signIn : Option String → Operation}
    (known : signIn ∈ signIns submission) (address : Option String) :
    (signIn address).call = passwordlessCall submission address := by
  simp only [signIns, List.mem_cons, List.not_mem_nil, or_false] at known
  rcases known with rfl | rfl <;> rfl

-- The data are written before the address is looked at.
theorem passwordlessCall_iff {submission : Resource.Submission} {address : Option String}
    {call : Call} : passwordlessCall submission address = .ok call ↔
      ∃ plain fields, submit "POST" "/passwordless/start" submission = .ok plain ∧
        Argument.forwardedFor address = .ok fields ∧ { plain with fields } = call := by
  simp only [passwordlessCall, bind_ok, pure, Except.pure, Except.ok.injEq, exists_and_left]

end Operation

namespace Session

section Calls
variable [Platform] {session : Session} {submission : Resource.Submission}
  {signIn : Option String → Operation} {call : Call} {request : Request} {address : String}
  {exchange : Exchange} {elapsed : Float}

section SigningIn
variable (known : signIn ∈ Operation.signIns submission)
  (sends : session.Sends (signIn none) call request)
  (literal : IpAddress.isLiteral address.toList = true)
include known sends literal

-- The call with an address differs from the one without in its fields alone.
theorem signIn_called : (signIn (some address)).call =
    .ok { call with fields := [("auth0-forwarded-for", address)] } := by
  have plain := sends.1
  rw [Operation.signIn_call known, Operation.passwordlessCall_iff] at plain
  obtain ⟨written, _, submitted, _, rfl⟩ := plain
  rw [Operation.signIn_call known, Operation.passwordlessCall_iff]
  exact ⟨written, _, submitted, Argument.forwardedFor_iff.mpr (.inr ⟨literal, rfl⟩), rfl⟩

theorem signIn_sent (ascii : Text.IsAscii address) :
    ∃ sent, (session.perform (signIn (some address)) exchange elapsed).sent = [sent] ∧
      valuesOf sent.request.fields "auth0-forwarded-for" = [address] := by
  have called := signIn_called known sends literal
  have name : Text.requireAscii "auth0-forwarded-for" = .ok () := by decide
  have accepted : Header.requireAscii [("auth0-forwarded-for", address)] = .ok () := by
    simp [Header.requireAscii, name, Text.requireAscii_iff.mpr ascii]
  obtain ⟨other, made⟩ := Request.ofCall_accepted sends.2.1 accepted
  refine ⟨_, perform_sends ⟨called, made, sends.2.2⟩, ?_⟩
  exact Request.ofCall_replaces made rfl (by decide)

theorem signIn_withheld (foreign : ¬Text.IsAscii address) :
    ∃ fault, session.perform (signIn (some address)) exchange elapsed =
      ⟨.error (.request (.notAscii fault)), [], [], session.past session.connection⟩ := by
  have called := signIn_called known sends literal
  have name : Text.requireAscii "auth0-forwarded-for" = .ok () := by decide
  cases value : Text.requireAscii address with
  | ok => exact absurd (Text.requireAscii_iff.mp value) foreign
  | error fault =>
      have refused : Header.requireAscii [("auth0-forwarded-for", address)] = .error fault := by
        simp [Header.requireAscii, name, value]
      exact ⟨fault, perform_unmade called (Request.ofCall_notAscii sends.2.1 refused)⟩

end SigningIn

-- The ways in which a sign-in with an address can go, where it can be sent without one.
theorem forwarded_visible_iff (known : signIn ∈ Operation.signIns submission)
    (sends : session.Sends (signIn none) call request) (address : String) (exchange : Exchange)
    (elapsed : Float) :
    (∀ fields, Argument.forwardedFor (some address) = .ok fields →
      address = "" ∧ fields = [] ∨ fields = [("auth0-forwarded-for", address)] ∧
        ((∀ c ∈ address.toList, IsVisible c) ↔
          ∀ front zone, address.toList = front ++ '%' :: zone → ∀ c ∈ zone, IsVisible c) ∧
        ∀ front zone other, address.toList = front ++ '%' :: zone → IpAddress.IsZone other →
          IpAddress.isLiteral (front ++ '%' :: other) = true) ∧
    (address = "" → (signIn (some address)).call = (signIn none).call) ∧
    (address ≠ "" → IpAddress.isLiteral address.toList = false →
      session.perform (signIn (some address)) exchange elapsed =
        ⟨.error (.argument (.notAddress address)), [], [], session⟩) ∧
    (IpAddress.isLiteral address.toList = true → ¬Text.IsAscii address →
      ∃ fault, session.perform (signIn (some address)) exchange elapsed =
        ⟨.error (.request (.notAscii fault)), [], [], session.past session.connection⟩) ∧
    (IpAddress.isLiteral address.toList = true → Text.IsAscii address →
      ∃ sent, (session.perform (signIn (some address)) exchange elapsed).sent = [sent] ∧
        valuesOf sent.request.fields "auth0-forwarded-for" = [address]) := by
  refine ⟨?accepted, ?empty, ?foreign, fun literal => signIn_withheld known sends literal,
    fun literal => signIn_sent known sends literal⟩
  case accepted =>
    intro fields made
    refine (Argument.forwardedFor_iff.mp made).imp_right fun ⟨literal, same⟩ => ?_
    refine ⟨same, IpAddress.visible_iff literal, fun front zone other cut isOther => ?_⟩
    rw [cut] at literal
    exact IpAddress.zone_replaced literal isOther
  case empty =>
    rintro rfl
    rw [Operation.signIn_call known, Operation.signIn_call known]
    rfl
  case foreign =>
    intro given foreign
    refine perform_refused ?_
    have plain := sends.1
    rw [Operation.signIn_call known, Operation.passwordlessCall_iff] at plain
    obtain ⟨written, _, submitted, _⟩ := plain
    rw [Operation.signIn_call known, Operation.passwordlessCall, submitted,
      Argument.forwardedFor_refused given foreign]
    rfl

end Calls

section Example

open scoped TenantApi.Stock

/-- A link-local address whose zone ends one line and begins another. -/
def smugglingAddress : String := "fe80::1%eth0\r\nX-Role: admin"

def exampleSubmission : Resource.Submission :=
  ⟨"PasswordlessSmsRequest", .record [("client_id", .text "app"), ("phone_number", .text "+1555"),
    ("client_secret", .null)] []⟩

def exampleTenant : Except Failure Session :=
  authentication .standard "3.11.0" (some "tenant.auth0.com") none

theorem example_sends : ∃ (session : Session) (call : Call) (request : Request),
    session.Sends (.startPasswordlessSms exampleSubmission none) call request := by
  obtain ⟨session, call, request, _, sends, _⟩ :=
    sends_of_ready (show isReady exampleTenant
      (.startPasswordlessSms exampleSubmission none) (fun _ => true) = true by decide +kernel)
  exact ⟨session, call, request, sends⟩

theorem smuggling_accepted : IpAddress.isLiteral smugglingAddress.toList = true ∧
    Text.IsAscii smugglingAddress := by
  have ascii : smugglingAddress.toList.all (·.toNat < 128) = true := by decide
  exact ⟨by decide, fun c member => by simpa using List.all_eq_true.mp ascii c member⟩

theorem forwarded_visible_smuggled :
    ∃ (session : Session) (call : Call) (request : Request) (sent : Sent),
      session.Sends (.startPasswordlessSms exampleSubmission none) call request ∧
      (session.perform (.startPasswordlessSms exampleSubmission (some smugglingAddress))
        (.broken "ConnectError" "") 0).sent = [sent] ∧
      valuesOf sent.request.fields "auth0-forwarded-for" = [smugglingAddress] ∧
      ¬∀ c ∈ smugglingAddress.toList, IsVisible c := by
  obtain ⟨session, call, request, sends⟩ := example_sends
  have known : .startPasswordlessSms exampleSubmission ∈ Operation.signIns exampleSubmission := by
    simp [Operation.signIns]
  obtain ⟨literal, ascii⟩ := smuggling_accepted
  obtain ⟨_, _, _, _, sending⟩ :=
    forwarded_visible_iff known sends smugglingAddress (.broken "ConnectError" "") 0
  obtain ⟨sent, only, values⟩ := sending literal ascii
  refine ⟨session, call, request, sent, sends, only, values, fun visible => ?_⟩
  exact absurd (visible '\r' (by decide)).1 (by decide)

-- What is accepted is passed on with a carriage return and a line feed in it.
theorem zone_smuggled :
    ¬∀ (address : String) (fields : Fields), Argument.forwardedFor (some address) = .ok fields →
      ∀ field ∈ fields, ∀ c ∈ field.2.toList, IsVisible c := by
  intro fit
  have made := Argument.forwardedFor_iff.mpr (.inr ⟨smuggling_accepted.1, rfl⟩)
  have visible := fit _ _ made _ (List.mem_singleton.mpr rfl) '\r' (by decide)
  exact absurd visible.1 (by decide)

end Example

end Session

end TenantApi
