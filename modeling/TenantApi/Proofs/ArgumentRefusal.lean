import TenantApi.Platform.Stock
import TenantApi.Proofs.ForwardedAddress
import TenantApi.Proofs.PathContainment

/-!
Arguments that are refused. An operation looks at them before anything else: a blank identifier,
data that nest too deep, a missing connection for an upload of users and an end user at no address
are refused, and nothing else is. A refusal leaves no trace, in the session or in what comes later;
what is not refused sends one request over an open connection, or none when no request can be made
of it.
-/

namespace TenantApi

open Fallible (bind_error map_error map_ok)

namespace Argument

variable {fault : Fault} {address : Option String} {options : ImportOptions}

theorem importForm_error_iff : importForm options = .error fault ↔
    options.connectionId = "" ∧ fault = .noConnection := by
  by_cases missing : options.connectionId = ""
  · simp [importForm, missing, eq_comm]
  · simp [importForm, missing]

theorem forwardedFor_error_iff : forwardedFor address = .error fault ↔
    ∃ text, address = some text ∧ text ≠ "" ∧ IpAddress.isLiteral text.toList = false ∧
      fault = .notAddress text := by
  cases address with
  | none => simp [forwardedFor]
  | some text =>
      by_cases empty : text = ""
      · simp [forwardedFor, empty]
      · cases literal : IpAddress.isLiteral text.toList with
        | true => simp [forwardedFor, empty, literal]
        | false =>
            simp only [forwardedFor, empty, literal, ↓reduceIte, Bool.false_eq_true,
              Except.error.injEq, Option.some.injEq, exists_eq_left', ne_eq, not_false_eq_true,
              true_and]
            exact eq_comm

end Argument

namespace Operation

inductive Rejects : Operation → Argument.Fault → Prop where
  | identifier {operation : Operation} {place : Place} {identifier : String}
      (about : operation.subject? = some (place, identifier))
      (blank : ∀ c ∈ identifier.toList, Text.isBlank c = true) :
      Rejects operation (.noIdentifier place.parameter)
  | data {operation : Operation} {submission : Resource.Submission}
      (sends : operation.submission? = some submission) (deep : submission.payload? = none)
      (named : ∀ place identifier, operation.subject? = some (place, identifier) →
        ¬∀ c ∈ identifier.toList, Text.isBlank c = true) : Rejects operation .tooDeep
  | connection {options : Argument.ImportOptions} {fileName : String} {content : Octets}
      (missing : options.connectionId = "") :
      Rejects (.importUsers options fileName content) .noConnection
  | address {submission : Resource.Submission} {signIn : Option String → Operation}
      {address : String} (known : signIn ∈ signIns submission)
      (written : submission.payload?.isSome = true) (given : address ≠ "")
      (foreign : IpAddress.isLiteral address.toList = false) :
      Rejects (signIn (some address)) (.notAddress address)

variable {operation : Operation} {fault : Argument.Fault}

theorem payloadOf_error_iff {submission : Resource.Submission} :
    payloadOf submission = .error fault ↔ submission.payload? = none ∧ fault = .tooDeep := by
  rw [payloadOf]
  cases submission.payload? <;> simp [eq_comm]

theorem payload_error_iff : operation.payload = .error fault ↔
    ∃ submission, operation.submission? = some submission ∧ submission.payload? = none ∧
      fault = .tooDeep := by
  rw [payload]
  cases operation.submission? with
  | none => simp
  | some submission => simp [payloadOf_error_iff]

theorem submit_error_iff {method path : String} {submission : Resource.Submission} :
    submit method path submission = .error fault ↔
      submission.payload? = none ∧ fault = .tooDeep := by
  rw [submit, map_error, payloadOf_error_iff]

theorem submit_ok {method path : String} {submission : Resource.Submission} {call : Call}
    (made : submit method path submission = .ok call) : submission.payload?.isSome = true := by
  cases written : submission.payload? with
  | none => cases made.symm.trans (submit_error_iff.mpr ⟨written, rfl⟩)
  | some payload => rfl

-- Of an operation about one thing the identifier is refused first, then the data.
theorem subject_error_iff {place : Place} {identifier : String}
    (about : operation.subject? = some (place, identifier)) :
    operation.call = .error fault ↔
      (∀ c ∈ identifier.toList, Text.isBlank c = true) ∧ fault = .noIdentifier place.parameter ∨
        (¬∀ c ∈ identifier.toList, Text.isBlank c = true) ∧ operation.payload = .error fault := by
  obtain ⟨_, method, called⟩ := subject_call about
  rw [called, bind_error, Place.path, map_error, Argument.pathSegment_error_iff]
  refine or_congr_right ⟨?_, ?_⟩
  · rintro ⟨path, located, failed⟩
    obtain ⟨segment, spelled, _⟩ := map_ok.mp located
    exact ⟨(Argument.pathSegment_ok_iff.mp spelled).1, map_error.mp failed⟩
  · rintro ⟨visible, failed⟩
    cases spelled : Argument.pathSegment place.parameter identifier with
    | error fault => exact absurd (Argument.pathSegment_error_iff.mp spelled).1 visible
    | ok segment => exact ⟨_, rfl, map_error.mpr failed⟩

theorem passwordless_error_iff {submission : Resource.Submission} {address : Option String} :
    passwordlessCall submission address = .error fault ↔
      submission.payload? = none ∧ fault = .tooDeep ∨
        submission.payload?.isSome = true ∧ Argument.forwardedFor address = .error fault := by
  constructor
  · intro refused
    rcases bind_error.mp refused with unwritten | ⟨call, made, failed⟩
    · exact .inl (submit_error_iff.mp unwritten)
    · rcases bind_error.mp failed with foreign | ⟨fields, _, done⟩
      · exact .inr ⟨submit_ok made, foreign⟩
      · contradiction
  · rintro (deep | ⟨written, foreign⟩)
    · exact bind_error.mpr (.inl (submit_error_iff.mpr deep))
    · refine bind_error.mpr (.inr ?_)
      obtain ⟨payload, shallow⟩ := Option.isSome_iff_exists.mp written
      have made : submit "POST" "/passwordless/start" submission =
          .ok (plainCall "POST" "/passwordless/start" payload) := by
        rw [submit, payloadOf, shallow]
        rfl
      exact ⟨_, made, bind_error.mpr (.inl foreign)⟩

theorem passwordless_rejects {submission : Resource.Submission}
    {signIn : Option String → Operation} {address : Option String}
    (known : signIn ∈ signIns submission)
    (refused : (signIn address).call = .error fault) : Rejects (signIn address) fault := by
  rw [signIn_call known, passwordless_error_iff, Argument.forwardedFor_error_iff] at refused
  rcases refused with ⟨deep, rfl⟩ | ⟨written, text, rfl, given, foreign, rfl⟩
  · simp only [signIns, List.mem_cons, List.not_mem_nil, or_false] at known
    rcases known with rfl | rfl <;> exact .data rfl deep (by simp [subject?])
  · exact .address known written given foreign

-- What is about one thing has a place for it; of the others all but two look at arguments.
theorem call_rejects (refused : operation.call = .error fault) : Rejects operation fault := by
  cases about : operation.subject? with
  | some subject =>
      rcases (subject_error_iff about).mp refused with ⟨blank, rfl⟩ | ⟨visible, failed⟩
      · exact .identifier about blank
      · obtain ⟨submission, sends, deep, rfl⟩ := payload_error_iff.mp failed
        refine .data sends deep fun place identifier same => ?_
        cases about.symm.trans same
        exact visible
  | none =>
      cases operation with
      | importUsers options fileName content =>
          rw [call, importCall, map_error, Argument.importForm_error_iff] at refused
          obtain ⟨missing, rfl⟩ := refused
          exact .connection missing
      | startPasswordlessEmail submission address =>
          have known : .startPasswordlessEmail submission ∈ signIns submission := by
            simp [signIns]
          exact passwordless_rejects known refused
      | startPasswordlessSms submission address =>
          have known : .startPasswordlessSms submission ∈ signIns submission := by
            simp [signIns]
          exact passwordless_rejects known refused
      | exportUsers | sendVerificationEmail | createClientGrant =>
          rw [call, submit_error_iff] at refused
          obtain ⟨deep, rfl⟩ := refused
          exact .data rfl deep (by simp [subject?])
      | _ => contradiction

theorem call_refused (rejects : Rejects operation fault) : operation.call = .error fault := by
  cases rejects with
  | identifier about blank => exact (subject_error_iff about).mpr (.inl ⟨blank, rfl⟩)
  | data sends deep named =>
      cases about : operation.subject? with
      | some subject =>
          exact (subject_error_iff about).mpr
            (.inr ⟨named _ _ about, payload_error_iff.mpr ⟨_, sends, deep, rfl⟩⟩)
      | none =>
          cases operation with
          | exportUsers | sendVerificationEmail | createClientGrant =>
              cases sends
              exact submit_error_iff.mpr ⟨deep, rfl⟩
          | startPasswordlessEmail | startPasswordlessSms =>
              cases sends
              exact passwordless_error_iff.mpr (.inl ⟨deep, rfl⟩)
          | _ => contradiction
  | connection missing =>
      rw [call, importCall, map_error]
      exact Argument.importForm_error_iff.mpr ⟨missing, rfl⟩
  | address known written given foreign =>
      rw [signIn_call known, passwordless_error_iff]
      exact .inr ⟨written, Argument.forwardedFor_refused given foreign⟩

theorem call_error_iff : operation.call = .error fault ↔ Rejects operation fault :=
  ⟨call_rejects, call_refused⟩

theorem call_accepted (accepted : ∀ fault, ¬Rejects operation fault) :
    ∃ call, operation.call = .ok call := by
  cases called : operation.call with
  | error fault => exact absurd (call_error_iff.mp called) (accepted fault)
  | ok call => exact ⟨call, rfl⟩

end Operation

namespace Session

section Calls
variable [Platform] {settings : Settings} {session start : Session} {operation : Operation}
  {exchange : Exchange} {elapsed : Float} {fault : Argument.Fault}

theorem perform_rejected (rejected : operation.Rejects fault) :
    session.perform operation exchange elapsed =
      ⟨.error (.argument fault), [], [], session⟩ :=
  perform_refused (Operation.call_error_iff.mpr rejected)

theorem after_rejected (rejected : operation.Rejects fault) (before later : List Action) :
    start.after settings (before ++ .perform operation exchange elapsed :: later) =
      start.after settings (before ++ later) := by
  rw [after_append, after_append, after, step, perform_rejected rejected]

theorem perform_accepted (opened : session.connection.isClosed = false)
    (accepted : ∀ fault, ¬operation.Rejects fault) :
    ∃ call, operation.call = .ok call ∧
      (∀ request,
        Request.ofCall session.connection.base session.connection.fields call = .ok request →
        ∀ exchange elapsed, (session.perform operation exchange elapsed).sent =
          [⟨request.withCredentials, session.nextId⟩]) ∧
      ∀ fault,
        Request.ofCall session.connection.base session.connection.fields call = .error fault →
        ∀ exchange elapsed, (session.perform operation exchange elapsed).result =
          .error (.request fault) ∧ (session.perform operation exchange elapsed).sent = [] := by
  obtain ⟨call, called⟩ := Operation.call_accepted accepted
  refine ⟨call, called, ?_, ?_⟩
  · intro request made exchange elapsed
    exact perform_sends ⟨called, made, opened⟩
  · intro fault unmade exchange elapsed
    rw [perform_unmade called unmade]
    exact ⟨rfl, rfl⟩

-- For every operation, in every state of its session.
theorem rejected_traceless (session : Session) (operation : Operation) :
    (∀ fault, operation.Rejects fault →
      (∀ exchange elapsed, session.perform operation exchange elapsed =
        ⟨.error (.argument fault), [], [], session⟩) ∧
      ∀ settings (start : Session) before exchange elapsed later,
        start.after settings (before ++ .perform operation exchange elapsed :: later) =
          start.after settings (before ++ later)) ∧
    (session.connection.isClosed = false → (∀ fault, ¬operation.Rejects fault) →
      ∃ call, operation.call = .ok call ∧
        (∀ request,
          Request.ofCall session.connection.base session.connection.fields call = .ok request →
          ∀ exchange elapsed, (session.perform operation exchange elapsed).sent =
            [⟨request.withCredentials, session.nextId⟩]) ∧
        ∀ fault,
          Request.ofCall session.connection.base session.connection.fields call = .error fault →
          ∀ exchange elapsed, (session.perform operation exchange elapsed).result =
            .error (.request fault) ∧ (session.perform operation exchange elapsed).sent = []) := by
  refine ⟨fun fault rejected => ⟨fun exchange elapsed => perform_rejected rejected, ?_⟩,
    perform_accepted⟩
  intro settings start before exchange elapsed later
  exact after_rejected rejected before later

end Calls

section Example

open scoped TenantApi.Stock

-- A closed connection and no address, then an open one and a redirection.
theorem rejected_traceless_signIn :
    ∃ (session : Session) (call : Call) (request : Request),
      session.Sends (.startPasswordlessSms exampleSubmission none) call request ∧
      (session.close .connection).perform
          (.startPasswordlessSms exampleSubmission (some "nowhere")) (.broken "" "") 0 =
        ⟨.error (.argument (.notAddress "nowhere")), [], [], session.close .connection⟩ ∧
      (session.perform (.startPasswordlessSms exampleSubmission none)
          (.answered ⟨302, [("location", "/other")], [], none⟩) 0).sent =
        [⟨request.withCredentials, session.nextId⟩] := by
  obtain ⟨session, call, request, sends⟩ := example_sends
  have known : .startPasswordlessSms exampleSubmission ∈ Operation.signIns exampleSubmission := by
    simp [Operation.signIns]
  have rejected : (Operation.startPasswordlessSms exampleSubmission (some "nowhere")).Rejects
      (.notAddress "nowhere") :=
    .address known (by decide) (by decide) (by decide)
  have accepted (fault : Argument.Fault) :
      ¬(Operation.startPasswordlessSms exampleSubmission none).Rejects fault := by
    rw [← Operation.call_error_iff, sends.1]
    simp
  refine ⟨session, call, request, sends,
    ((rejected_traceless (session.close .connection) _).1 _ rejected).1 _ _, ?_⟩
  obtain ⟨other, called, made, _⟩ := (rejected_traceless session _).2 sends.2.2 accepted
  cases sends.1.symm.trans called
  exact made request sends.2.1 _ _

end Example

end Session

end TenantApi
