import TenantApi.Platform.Stock
import TenantApi.Proofs.SessionRun

/-!
The rate limit that a connection remembers, over whole runs. It is the one of the latest response
that came back to the connection, whatever became of the call afterwards, and an action that no
response came back for leaves it alone. An error of too many calls carries the rate limit of the
response that reported it.
-/

namespace TenantApi

open Fallible (bind_error)

def Failure.AfterResponse : Failure → Prop
  | .quota _ | .service _ | .undecodable _ | .mismatch _ | .jobErrors _ => True
  | _ => False

namespace Connection

/-- What is remembered after a response; headers that cannot be read change nothing. -/
def remember (previous : Option RateLimit) (response : Response) : Option RateLimit :=
  match (RateLimit.ofFields response.fields).result with
  | .ok rateLimit => rateLimit
  | .error _ => previous

variable [Platform]

/-- The response that comes back for a request that was sent. Cookies and redirections are looked
at first, and what is wrong with those is a fault of the transport. -/
def returned? : Exchange → List Sent → Option Response
  | .answered response, sent :: _ =>
      if (responseFault? sent.request response).isNone then some response else none
  | _, _ => none

variable {connection : Connection} {id : String} {call : Call} {exchange : Exchange}
  {elapsed : Float} {request : Request} {response : Response} {failure : Failure}

theorem receive_remembers (fits : responseFault? request response = none) :
    (connection.receive id call request response elapsed).connection.lastRateLimit =
      remember connection.lastRateLimit response := by
  simp only [receive, fits, remember]
  cases (RateLimit.ofFields response.fields).result with
  | error fault => rfl
  | ok rateLimit => cases response.isFailure <;> rfl

theorem receive_faulty (fault : responseFault? request response = some failure) :
    connection.receive id call request response elapsed =
      ⟨.error failure, connection, [⟨request, id⟩], []⟩ := by
  simp only [receive, fault]

-- Two things can go wrong once a response is in: its quota cannot be read, or its status is that
-- of an error.
theorem receive_error (fits : responseFault? request response = none)
    (failed : (connection.receive id call request response elapsed).result = .error failure) :
    (∃ fault, failure = .quota fault) ∨
      ∃ rateLimit, (RateLimit.ofFields response.fields).result = .ok rateLimit ∧
        failure = (refusal id request response rateLimit).1 := by
  simp only [receive, fits] at failed
  cases read : (RateLimit.ofFields response.fields).result with
  | error fault =>
      simp only [read, Except.error.injEq] at failed
      exact .inl ⟨fault, failed.symm⟩
  | ok rateLimit =>
      simp only [read] at failed
      split at failed
      case isTrue =>
        simp only [Except.error.injEq] at failed
        exact .inr ⟨rateLimit, rfl, failed.symm⟩
      case isFalse => contradiction

theorem receive_failure (fits : responseFault? request response = none)
    (failed : (connection.receive id call request response elapsed).result = .error failure) :
    failure.AfterResponse := by
  rcases receive_error fits failed with ⟨fault, rfl⟩ | ⟨rateLimit, _, rfl⟩
  · trivial
  · rcases refusal_cases id request response rateLimit with ⟨_, _, same⟩ | ⟨_, _, same⟩ <;>
      rw [same] <;> trivial

-- An error that reports too many calls says how many are left, as its response does.
theorem receive_limited {error : ApiError} (fits : responseFault? request response = none)
    (failed : (connection.receive id call request response elapsed).result =
      .error (.service error)) (limited : error.kind = .rateLimit) :
    (RateLimit.ofFields response.fields).result = .ok error.rateLimit := by
  rcases receive_error fits failed with ⟨fault, same⟩ | ⟨rateLimit, read, same⟩
  · contradiction
  · rcases refusal_cases id request response rateLimit with ⟨_, _, other⟩ | ⟨body, _, made⟩
    · cases same.trans other
    · rw [made, Failure.service.injEq] at same
      subst same
      have kind : ApiError.Kind.ofStatus response.status = .rateLimit := limited
      simp [read, ApiError.ofResponse, kind]

theorem responseFault_before (fault : responseFault? request response = some failure) :
    ¬failure.AfterResponse := by
  rcases responseFault_cases fault with ⟨_, _, rfl⟩ | ⟨_, _, _, _, rfl⟩
  · exact id
  · exact id

-- A call ends before a response has come back, or with what becomes of the response.
theorem send_cases (connection : Connection) (id : String) (call : Call) (exchange : Exchange)
    (elapsed : Float) :
    (∃ failure sent, connection.send id call exchange elapsed =
        ⟨.error failure, connection, sent, []⟩ ∧ ¬failure.AfterResponse ∧
          returned? exchange sent = none) ∨
      ∃ request response, connection.send id call exchange elapsed =
        connection.receive id call request response elapsed ∧
          responseFault? request response = none ∧ exchange = .answered response := by
  simp only [send]
  split
  case h_1 fault unmade =>
    refine .inl ⟨.request fault, [], rfl, fun after => after, ?_⟩
    cases exchange <;> rfl
  case h_2 request made =>
    split
    case isTrue closed =>
      refine .inl ⟨.closed, [], rfl, fun after => after, ?_⟩
      cases exchange <;> rfl
    case isFalse =>
      cases exchange with
      | broken kind message => exact .inl ⟨.transport kind message, _, rfl, fun after => after, rfl⟩
      | answered response =>
          cases fault : responseFault? request.withCredentials response with
          | some failure =>
              refine .inl ⟨failure, _, receive_faulty fault, responseFault_before fault, ?_⟩
              simp [returned?, fault]
          | none => exact .inr ⟨request.withCredentials, response, rfl, fault, rfl⟩

end Connection

theorem Shape.read_failure [Platform] {shape : Shape} {response : Response} {failure : Failure}
    (failed : shape.read response = .error failure) :
    failure.AfterResponse ∧ ∀ error, failure ≠ .service error := by
  cases Shape.read_misfit failed <;> exact ⟨trivial, fun error same => nomatch same⟩

namespace Session

open Connection (returned? remember responseFault? send_cases receive_sent receive_remembers
  receive_failure receive_limited)

section Runs
variable [Platform]

inductive Opened (settings : Settings) : Session → Prop where
  | connection {runtimeVersion base : String} {token : Option String} {given : Fields}
      {timeout : Option Number} {connection : Connection}
      (made : Connection.new settings runtimeVersion base token given timeout = .ok connection) :
      Opened settings (ofConnection connection)
  | management {runtimeVersion : String} {domain token : Option String} {timeout : Option Number}
      {session : Session}
      (made : Session.management settings runtimeVersion domain token timeout = .ok session) :
      Opened settings session
  | authentication {runtimeVersion : String} {domain : Option String} {timeout : Option Number}
      {session : Session}
      (made : Session.authentication settings runtimeVersion domain timeout = .ok session) :
      Opened settings session

def received? (session : Session) : Action → Option Response
  | .perform operation exchange elapsed =>
      returned? exchange (session.perform operation exchange elapsed).sent
  | _ => none

def receipts (settings : Settings) (session : Session) : List Action → List Response
  | [] => []
  | action :: rest =>
      (session.received? action).toList ++
        receipts settings (session.step settings action).session rest

variable {settings : Settings} {session start : Session} {operation : Operation}
  {exchange : Exchange} {elapsed : Float} {failure : Failure}

theorem perform_cases (session : Session) (operation : Operation) (exchange : Exchange)
    (elapsed : Float) :
    (∃ failure, (session.perform operation exchange elapsed).result = .error failure ∧
        (session.perform operation exchange elapsed).session.connection = session.connection ∧
          ¬failure.AfterResponse ∧
            returned? exchange (session.perform operation exchange elapsed).sent = none) ∨
      ∃ id call request response,
        (session.perform operation exchange elapsed).result =
          (session.connection.receive id call request response elapsed).result.bind
            operation.shape.read ∧
        (session.perform operation exchange elapsed).session.connection =
          (session.connection.receive id call request response elapsed).connection ∧
        responseFault? request response = none ∧
        returned? exchange (session.perform operation exchange elapsed).sent = some response := by
  simp only [perform]
  split
  case h_1 fault refused =>
    refine .inl ⟨.argument fault, rfl, rfl, fun after => after, ?_⟩
    cases exchange <;> rfl
  case h_2 call made =>
    simp only [Session.exchange]
    rcases send_cases session.connection (session.ids.enter none).current call exchange elapsed with
      ⟨failure, sent, outcome, before, unreturned⟩ | ⟨request, response, outcome, fits, answered⟩
    · rw [outcome]
      exact .inl ⟨failure, rfl, rfl, before, unreturned⟩
    · rw [outcome]
      refine .inr ⟨_, call, request, response, rfl, rfl, fits, ?_⟩
      simp [receive_sent, answered, returned?, fits]

-- One action.
theorem step_remembers (action : Action) :
    (session.step settings action).session.connection.lastRateLimit =
      (session.received? action).toList.foldl remember session.connection.lastRateLimit := by
  cases action with
  | perform operation exchange elapsed =>
      simp only [step, received?]
      rcases perform_cases session operation exchange elapsed with
        ⟨failure, _, kept, _, unreturned⟩ | ⟨id, call, request, response, _, kept, fits, returned⟩
      · rw [kept, unreturned]
        rfl
      · rw [kept, returned, receive_remembers fits]
        rfl
  | decodeIdToken token clientId clientSecret leeway now =>
      simp only [step, decodeIdToken]
      split <;> rfl
  | enter party => rfl
  | close party =>
      simp only [step, close, answer]
      split <;> rfl

theorem after_remembers (history : List Action) :
    (session.after settings history).connection.lastRateLimit =
      (session.receipts settings history).foldl remember session.connection.lastRateLimit := by
  induction history generalizing session with
  | nil => rfl
  | cons action rest ih => rw [after, ih, receipts, List.foldl_append, step_remembers]

theorem opened_unlimited (opened : Opened settings start) :
    start.connection.lastRateLimit = none := by
  have new {runtimeVersion base : String} {token : Option String} {given : Fields}
      {timeout : Option Number} {connection : Connection}
      (made : Connection.new settings runtimeVersion base token given timeout = .ok connection) :
      connection.lastRateLimit = none := by
    obtain ⟨_, _, _, _, rfl⟩ := Connection.new_made made
    rfl
  cases opened with
  | connection made => exact new made
  | management made =>
      obtain ⟨_, _, _, made⟩ := management_made made
      exact new made
  | authentication made =>
      obtain ⟨_, _, made⟩ := authentication_made made
      exact new made

omit [Platform] in
theorem shown_remembered (session : Session) (party : Party) :
    session.rateLimit party = session.connection.lastRateLimit := by
  cases party <;> rfl

theorem step_failure (action : Action)
    (failed : (session.step settings action).result = .error failure) :
    (session.received? action).isSome = true ↔ failure.AfterResponse := by
  cases action with
  | perform operation exchange elapsed =>
      simp only [step, received?] at failed ⊢
      rcases perform_cases session operation exchange elapsed with
        ⟨found, result, _, before, unreturned⟩ |
        ⟨id, call, request, response, result, _, fits, returned⟩
      · rw [result, Except.error.injEq] at failed
        subst failed
        simp [unreturned, before]
      · rw [result] at failed
        rw [returned, Option.isSome_some, eq_self, true_iff]
        rcases bind_error.mp failed with early | ⟨value, _, late⟩
        · exact receive_failure fits early
        · exact (Shape.read_failure late).1
  | decodeIdToken token clientId clientSecret leeway now =>
      simp only [step, decodeIdToken] at failed
      split at failed
      case h_1 => contradiction
      case h_2 =>
        simp only [answer, Except.error.injEq] at failed
        subst failed
        simp [received?, Failure.AfterResponse]
  | enter party => contradiction
  | close party => contradiction

theorem step_limited (action : Action) {error : ApiError}
    (failed : (session.step settings action).result = .error (.service error))
    (limited : error.kind = .rateLimit) :
    ∃ response, session.received? action = some response ∧
      (RateLimit.ofFields response.fields).result = .ok error.rateLimit := by
  have after : (session.received? action).isSome = true := (step_failure action failed).mpr trivial
  cases action with
  | perform operation exchange elapsed =>
      simp only [step, received?] at failed after ⊢
      rcases perform_cases session operation exchange elapsed with
        ⟨_, _, _, _, unreturned⟩ | ⟨id, call, request, response, result, _, fits, returned⟩
      · rw [unreturned] at after
        contradiction
      · refine ⟨response, returned, ?_⟩
        rw [result] at failed
        rcases bind_error.mp failed with early | ⟨value, _, late⟩
        · exact receive_limited fits early limited
        · exact absurd rfl ((Shape.read_failure late).2 error)
  | decodeIdToken => contradiction
  | enter => contradiction
  | close => contradiction

-- After any history, and for every way in which one more action may end.
theorem rateLimit_latest (opened : Opened settings start) (history : List Action) (party : Party) :
    ((start.receipts settings history).getLast? = none →
      (start.after settings history).rateLimit party = none) ∧
    (∀ response rateLimit, (start.receipts settings history).getLast? = some response →
      (RateLimit.ofFields response.fields).result = .ok rateLimit →
        (start.after settings history).rateLimit party = rateLimit) ∧
    ∀ action,
      ((start.after settings history).received? action = none →
        ((start.after settings history).step settings action).session.rateLimit party =
          (start.after settings history).rateLimit party) ∧
      (∀ failure, ((start.after settings history).step settings action).result = .error failure →
        (((start.after settings history).received? action).isSome = true ↔
          failure.AfterResponse)) ∧
      ∀ error, ((start.after settings history).step settings action).result =
          .error (.service error) → error.kind = .rateLimit →
        ∃ response, (start.after settings history).received? action = some response ∧
          (RateLimit.ofFields response.fields).result = .ok error.rateLimit ∧
          ((start.after settings history).step settings action).session.rateLimit party =
            error.rateLimit := by
  have remembered : (start.after settings history).connection.lastRateLimit =
      (start.receipts settings history).foldl remember none := by
    rw [after_remembers, opened_unlimited opened]
  simp only [shown_remembered]
  refine ⟨?_, ?_, ?_⟩
  · intro unanswered
    rw [remembered, List.getLast?_eq_none_iff.mp unanswered]
    rfl
  · intro response rateLimit latest read
    obtain ⟨front, whole⟩ := List.getLast?_eq_some_iff.mp latest
    rw [remembered, whole, List.foldl_append]
    simp only [List.foldl_cons, List.foldl_nil, remember, read]
  · intro action
    refine ⟨?_, fun failure failed => step_failure action failed, ?_⟩
    · intro unreceived
      rw [step_remembers, unreceived]
      rfl
    · intro error failed limited
      obtain ⟨response, received, read⟩ := step_limited action failed limited
      refine ⟨response, received, read, ?_⟩
      rw [step_remembers, received]
      simp only [Option.toList_some, List.foldl_cons, List.foldl_nil, remember, read]

end Runs

section Example

open scoped TenantApi.Stock

/-- A body that is no job, an identifier that is blank, a refusal for too many calls, a transport
that gives up, and the end. -/
def exampleHistory : List Action := [
  .perform (.getJob "job") (.answered ⟨200, [("X-RateLimit-Remaining", "9")], [], none⟩) 0,
  .perform (.getJob " ") (.answered ⟨200, [], [], none⟩) 0,
  .perform (.deleteClientGrant "g") (.answered ⟨429, [("x-ratelimit-remaining", "0")], [], none⟩) 0,
  .perform (.getJob "job") (.broken "ConnectError" "") 0,
  .close .management]

def exampleOpened : Except Failure Session :=
  management .standard "3.11.0" (some "tenant.auth0.com") (some "token") none

def latestFields (settings : Settings) (opened : Except Failure Session) (history : List Action) :
    Option Fields :=
  match opened with
  | .error _ => none
  | .ok session => (session.receipts settings history).getLast?.map (·.fields)

theorem latest_response {opened : Except Failure Session} {history : List Action} {fields : Fields}
    (found : latestFields settings opened history = some fields) :
    ∃ start response, opened = .ok start ∧
      (start.receipts settings history).getLast? = some response ∧ response.fields = fields := by
  simp only [latestFields] at found
  split at found
  case h_1 => contradiction
  case h_2 start =>
    obtain ⟨response, latest, same⟩ := Option.map_eq_some_iff.mp found
    exact ⟨start, response, rfl, latest, same⟩

theorem rateLimit_latest_example :
    ∃ start, Opened .standard start ∧
      (start.after .standard exampleHistory).rateLimit .authentication =
        some ⟨none, some 0, none, none, none⟩ := by
  have fields : latestFields .standard exampleOpened exampleHistory =
      some [("x-ratelimit-remaining", "0")] := by decide +kernel
  have read : (RateLimit.ofFields [("x-ratelimit-remaining", "0")]).result =
      .ok (some ⟨none, some 0, none, none, none⟩) := by decide +kernel
  obtain ⟨start, response, made, latest, same⟩ := latest_response fields
  rw [← same] at read
  have opened : Opened .standard start := .management made
  exact ⟨start, opened,
    (rateLimit_latest opened exampleHistory .authentication).2.1 response _ latest read⟩

end Example

end Session

end TenantApi
