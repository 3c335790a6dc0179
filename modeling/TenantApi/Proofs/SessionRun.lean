import TenantApi.Proofs.Fallible
import TenantApi.Session

/-!
Sessions over whole runs. What one action keeps, every history of actions keeps; the base address
and the fields of the connection are never touched, and what an operation sends is the request that
its call makes of them.
-/

namespace TenantApi

open Fallible (bind_ok bind_error map_error mapError_ok mapError_error)

namespace Connection

variable {connection : Connection} {id : String} {call : Call} {exchange : Exchange}
  {elapsed : Float} {request : Request} {response : Response}

structure Kept (before after : Connection) : Prop where
  base : after.base = before.base
  fields : after.fields = before.fields

theorem Kept.refl (connection : Connection) : connection.Kept connection := ⟨rfl, rfl⟩

theorem Kept.trans {first second third : Connection} (earlier : first.Kept second)
    (later : second.Kept third) : first.Kept third :=
  ⟨later.base.trans earlier.base, later.fields.trans earlier.fields⟩

variable [Platform]

theorem new_made {settings : Settings} {runtimeVersion base : String} {token : Option String}
    {given : Fields} {timeout : Option Number}
    (made : new settings runtimeVersion base token given timeout = .ok connection) :
    ∃ url address, Url.parse base.toList = .ok url ∧ url.asBase = .ok address ∧
      connection = ⟨address, ownFields runtimeVersion token given,
        timeout.getD settings.timeout, none, false⟩ := by
  simp only [new, bind_ok, mapError_ok] at made
  obtain ⟨address, located, _, _, built⟩ := made
  obtain ⟨url, read, based⟩ := bind_ok.mp located
  cases built
  exact ⟨url, address, read, based, rfl⟩

-- The address comes first: where it has no scheme, nothing is asked of the response.
theorem responseFault_cases {failure : Failure}
    (found : responseFault? request response = some failure) :
    (request.url.scheme = [] ∧ ∃ address, failure = .noScheme address) ∨
      ∃ location fault, response.redirection? = some location ∧
        Redirect.target request.url location = .error fault ∧ failure = .redirection fault := by
  simp only [responseFault?, List.isEmpty_iff] at found
  split at found
  case isTrue schemeless =>
    cases found
    exact .inl ⟨schemeless, _, rfl⟩
  case isFalse =>
    split at found
    case h_1 => contradiction
    case h_2 location pointed =>
      split at found
      case h_1 => contradiction
      case h_2 fault unread =>
        cases found
        exact .inr ⟨location, fault, pointed, unread, rfl⟩

theorem receive_kept :
    connection.Kept (connection.receive id call request response elapsed).connection := by
  simp only [receive]
  split
  case h_1 => exact .refl connection
  case h_2 =>
    split
    case h_1 => exact .refl connection
    case h_2 => split <;> exact ⟨rfl, rfl⟩

theorem receive_sent :
    (connection.receive id call request response elapsed).sent = [⟨request, id⟩] := by
  simp only [receive]
  split
  case h_1 => rfl
  case h_2 =>
    split
    case h_1 => rfl
    case h_2 => split <;> rfl

-- A status from 400 on is an error of the service unless the body has no value.
theorem refusal_cases (id : String) (request : Request) (response : Response)
    (rateLimit : Option RateLimit) :
    (∃ fault, response.value = .error fault ∧
        (refusal id request response rateLimit).1 = .undecodable fault) ∨
      ∃ body, response.value = .ok body ∧
        (refusal id request response rateLimit).1 =
          .service (ApiError.ofResponse response body rateLimit) := by
  cases read : response.value with
  | error fault => exact .inl ⟨fault, rfl, by simp only [refusal, read]⟩
  | ok body => exact .inr ⟨body, rfl, by simp only [refusal, read]⟩

theorem send_kept : connection.Kept (connection.send id call exchange elapsed).connection := by
  simp only [send]
  split
  case h_1 => exact .refl connection
  case h_2 =>
    split
    case isTrue => exact .refl connection
    case isFalse =>
      split
      case h_1 => exact .refl connection
      case h_2 => exact receive_kept

theorem send_sent {sent : Sent} (member : sent ∈ (connection.send id call exchange elapsed).sent) :
    ∃ request, Request.ofCall connection.base connection.fields call = .ok request ∧
      sent = ⟨request.withCredentials, id⟩ := by
  simp only [send] at member
  split at member
  case h_1 => contradiction
  case h_2 request made =>
    split at member
    case isTrue => contradiction
    case isFalse =>
      refine ⟨request, made, ?_⟩
      split at member
      case h_1 => simpa using member
      case h_2 => simpa [receive_sent] using member

end Connection

variable [Platform]

inductive Shape.Misfit : Failure → Prop where
  | undecodable (refusal : Charset.Refusal) : Misfit (.undecodable refusal)
  | mismatch (issues : List Schema.Issue) : Misfit (.mismatch issues)
  | jobErrors (refusal : JobErrors.Refusal) : Misfit (.jobErrors refusal)

theorem Shape.read_misfit {shape : Shape} {response : Response} {failure : Failure}
    (failed : shape.read response = .error failure) : Misfit failure := by
  cases shape with
  | anything | text | nothing =>
      simp only [read, map_error, mapError_error] at failed
      obtain ⟨refusal, _, rfl⟩ := failed
      exact .undecodable refusal
  | model expected =>
      rcases bind_error.mp failed with unread | ⟨value, _, failed⟩
      · obtain ⟨refusal, _, rfl⟩ := mapError_error.mp unread
        exact .undecodable refusal
      · rcases bind_error.mp failed with unfit | ⟨data, _, done⟩
        · obtain ⟨issues, _, rfl⟩ := mapError_error.mp unfit
          exact .mismatch issues
        · contradiction
  | jobErrors =>
      rcases bind_error.mp failed with unread | ⟨text, _, failed⟩
      · obtain ⟨refusal, _, rfl⟩ := mapError_error.mp unread
        exact .undecodable refusal
      · rcases bind_error.mp failed with unfit | ⟨errors, _, done⟩
        · obtain ⟨refusal, _, rfl⟩ := mapError_error.mp unfit
          exact .jobErrors refusal
        · contradiction

namespace Session

variable {settings : Settings} {session : Session} {operation : Operation} {exchange : Exchange}
  {elapsed : Float}

theorem management_made {runtimeVersion : String} {domain token : Option String}
    {timeout : Option Number}
    (made : management settings runtimeVersion domain token timeout = .ok session) :
    ∃ base given, Tenant.managementBase settings domain = .ok base ∧
      Connection.new settings runtimeVersion base given [] timeout = .ok session.connection := by
  simp only [management, bind_ok, mapError_ok] at made
  obtain ⟨base, located, token, _, connection, new, same⟩ := made
  cases same
  exact ⟨base, some token, located, new⟩

theorem authentication_made {runtimeVersion : String} {domain : Option String}
    {timeout : Option Number}
    (made : authentication settings runtimeVersion domain timeout = .ok session) :
    ∃ base, Tenant.authenticationBase settings domain = .ok base ∧
      Connection.new settings runtimeVersion base none [] timeout = .ok session.connection := by
  simp only [authentication, bind_ok, mapError_ok] at made
  obtain ⟨base, located, connection, new, same⟩ := made
  cases same
  exact ⟨base, located, new⟩

def after (settings : Settings) (session : Session) : List Action → Session
  | [] => session
  | action :: rest => after settings (session.step settings action).session rest

theorem after_append (before later : List Action) :
    session.after settings (before ++ later) =
      (session.after settings before).after settings later := by
  induction before generalizing session with
  | nil => rfl
  | cons action rest ih => rw [List.cons_append, after, after, ih]

theorem perform_kept :
    session.connection.Kept (session.perform operation exchange elapsed).session.connection := by
  simp only [perform]
  split
  case h_1 => exact .refl session.connection
  case h_2 => exact Connection.send_kept

theorem step_kept (action : Action) :
    session.connection.Kept (session.step settings action).session.connection := by
  cases action with
  | perform operation exchange elapsed => exact perform_kept
  | decodeIdToken token clientId clientSecret leeway now =>
      simp only [step, decodeIdToken]
      split <;> exact .refl session.connection
  | enter party => exact .refl session.connection
  | close party =>
      simp only [step, close, answer]
      split <;> exact ⟨rfl, rfl⟩

theorem after_kept (history : List Action) :
    session.connection.Kept (session.after settings history).connection := by
  induction history generalizing session with
  | nil => exact .refl session.connection
  | cons action rest ih => exact (step_kept action).trans ih

theorem after_base (history : List Action) :
    (session.after settings history).connection.base = session.connection.base :=
  (after_kept history).base

theorem perform_sent {sent : Sent}
    (member : sent ∈ (session.perform operation exchange elapsed).sent) :
    ∃ call request, operation.call = .ok call ∧
      Request.ofCall session.connection.base session.connection.fields call = .ok request ∧
      sent.request = request.withCredentials := by
  simp only [perform] at member
  split at member
  case h_1 => contradiction
  case h_2 call made =>
    obtain ⟨request, prepared, rfl⟩ := Connection.send_sent member
    exact ⟨call, request, made, prepared, rfl⟩

end Session

namespace Request

variable {base : Url} {own : Fields} {call : Call} {request : Request}

omit [Platform] in
theorem withCredentials_url (request : Request) : request.withCredentials.url = request.url := by
  simp only [withCredentials]
  split <;> rfl

theorem ofCall_url (plain : call.params = none) (made : ofCall base own call = .ok request) :
    address base call.path = .ok request.url := by
  simp only [ofCall, bind_ok, mapError_ok, plain, withParams, Query.cleaned, Option.map_none,
    Except.ok.injEq] at made
  obtain ⟨url, located, _, _, same, rfl, body, _, built⟩ := made
  simp only [pure, Except.pure, Except.ok.injEq] at built
  subst built
  exact located

end Request

end TenantApi
