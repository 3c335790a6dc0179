import TenantApi.Proofs.CallIds
import TenantApi.Proofs.ErrorFamily
import TenantApi.Proofs.QuotaGrammar
import TenantApi.Proofs.RateLimitFields

/-!
What calls log, over whole runs. A response that came back is recorded once, then each malformed
segment of the client's quota and of the organization's, then the refusal for too many calls. Only a
body that its charset refuses keeps that last record back. A call that no response came back for
logs nothing, and every record carries the id of its call.
-/

namespace TenantApi

open Header (firstValue?)

namespace Quota

def segmentsIn (value : Option String) : List String :=
  match value with
  | none => []
  | some text => if text = "" then [] else segments text

def passedOver (segments : List String) : List String :=
  segments.filter fun segment => parseSegment segment = .ok none

variable {value : Option String} {limits : Option Limits}

theorem segment_readable (read : (readLimits value).result = .ok limits) :
    ∀ segment ∈ segmentsIn value, ¬Unreadable segment := by
  intro segment member unreadable
  simp only [segmentsIn] at member
  split at member
  case h_1 => contradiction
  case h_2 text =>
    split at member
    case isTrue => contradiction
    case isFalse =>
      obtain ⟨fault, failed⟩ := readLimits_error_iff.mpr ⟨text, rfl, segment, member, unreadable⟩
      cases read.symm.trans failed

theorem readLimits_passed (read : (readLimits value).result = .ok limits) :
    (readLimits value).malformed = passedOver (segmentsIn value) := by
  have readable := segment_readable read
  cases value with
  | none => rfl
  | some text =>
      by_cases empty : text = ""
      · simp [readLimits, empty, segmentsIn, passedOver]
      · simp only [segmentsIn, empty, ↓reduceIte] at readable ⊢
        obtain ⟨_, run, _⟩ := readLimits_fills empty readable
        rw [run, passedOver]

end Quota

namespace RateLimit

def quotaSegments (fields : Fields) : List String :=
  Quota.segmentsIn (firstValue? fields "auth0-client-quota-limit") ++
    Quota.segmentsIn (firstValue? fields "auth0-organization-quota-limit")

variable {fields : Fields} {rateLimit : Option RateLimit}

theorem quotas_read (read : (ofFields fields).result = .ok rateLimit) :
    (ofFields fields).malformed = Quota.passedOver (quotaSegments fields) ∧
      ∀ segment ∈ quotaSegments fields, ¬Quota.Unreadable segment := by
  rw [ofFields_eq] at read ⊢
  simp only [ofValues] at read ⊢
  split at read
  case h_1 => contradiction
  case h_2 client readClient =>
    split at read
    case h_1 => contradiction
    case h_2 organization readOrganization =>
      constructor
      · rw [Quota.readLimits_passed readClient, Quota.readLimits_passed readOrganization,
          quotaSegments, Quota.passedOver, Quota.passedOver, Quota.passedOver, List.filter_append]
      · intro segment member
        rcases List.mem_append.mp member with first | second
        · exact Quota.segment_readable readClient segment first
        · exact Quota.segment_readable readOrganization segment second

end RateLimit

namespace Connection

theorem ofStatus_rateLimit {status : Int} :
    ApiError.Kind.ofStatus status = .rateLimit ↔ status = 429 := by
  constructor
  · intro kind
    have covered := ApiError.ofStatus_covers status
    rw [kind] at covered
    exact covered
  · rintro rfl
    rfl

variable [Platform] {connection : Connection} {id : String} {call : Call} {request : Request}
  {response : Response} {elapsed : Float} {rateLimit : Option RateLimit}

def warnings (request : Request) (response : Response) (rateLimit : Option RateLimit) :
    List Log.Event :=
  match response.value with
  | .ok _ =>
      if response.status = 429 then
        [.rateLimited request.method request.url.readablePath response.status
          (rateLimit.bind RateLimit.remaining)]
      else []
  | .error _ => []

theorem refusal_log (id : String) (request : Request) (response : Response)
    (rateLimit : Option RateLimit) : (refusal id request response rateLimit).2 =
      (warnings request response rateLimit).map fun event => ⟨id, event⟩ := by
  simp only [refusal, warnings]
  cases response.value with
  | error fault => rfl
  | ok body =>
      have kind : (ApiError.ofResponse response body rateLimit).kind = .rateLimit ↔
          response.status = 429 := ofStatus_rateLimit
      by_cases limited : response.status = 429
      · simp [kind, limited]
      · simp [kind, limited]

/-- The last records about a response: one of too many calls, if the body has a value. -/
inductive Warns (request : Request) (response : Response) (rateLimit : Option RateLimit) :
    List Log.Event → Prop where
  | limited (limited : response.status = 429) (valued : ¬response.Valueless) :
      Warns request response rateLimit [.rateLimited request.method request.url.readablePath 429
        (rateLimit.bind RateLimit.remaining)]
  | valueless (limited : response.status = 429) (valueless : response.Valueless) :
      Warns request response rateLimit []
  | other (other : response.status ≠ 429) : Warns request response rateLimit []

theorem warnings_warns :
    Warns request response rateLimit (warnings request response rateLimit) := by
  by_cases limited : response.status = 429
  · cases value : response.value with
    | error refusal =>
        simp only [warnings, value]
        exact .valueless limited ⟨refusal, Response.value_error_iff.mp value⟩
    | ok body =>
        simp only [warnings, value, limited, ↓reduceIte]
        refine .limited limited ?_
        rintro ⟨refusal, refused⟩
        cases value.symm.trans (Response.value_error_iff.mpr refused)
  · simp only [warnings, limited, ↓reduceIte]
    split <;> exact .other limited

-- A good response warns of nothing, since its status is another one.
theorem warnings_good (good : response.isFailure = false) :
    warnings request response rateLimit = [] := by
  have other : response.status ≠ 429 := by
    intro limited
    simp [Response.isFailure, limited] at good
  simp only [warnings, other, ↓reduceIte]
  split <;> rfl

def events (call : Call) (request : Request) (response : Response) (elapsed : Float)
    (rateLimit : Option RateLimit) : List Log.Event :=
  .call call.method call.path response.status (elapsedMillis elapsed) ::
    (Quota.passedOver (RateLimit.quotaSegments response.fields)).map .malformedQuota ++
    warnings request response rateLimit

theorem receive_log (fits : responseFault? request response = none)
    (read : (RateLimit.ofFields response.fields).result = .ok rateLimit) :
    (connection.receive id call request response elapsed).log =
      (events call request response elapsed rateLimit).map fun event => ⟨id, event⟩ := by
  have passed := (RateLimit.quotas_read read).1
  simp only [receive, fits, read, passed]
  cases failing : response.isFailure with
  | true =>
      simp only [↓reduceIte, refusal_log, events]
      simp
  | false =>
      simp only [Bool.false_eq_true, ↓reduceIte, events, warnings_good failing]
      simp

theorem receive_ids {entry : Entry}
    (member : entry ∈ (connection.receive id call request response elapsed).log) :
    entry.id = id := by
  simp only [receive] at member
  split at member
  case h_1 => contradiction
  case h_2 =>
    split at member
    case h_1 =>
      simp only [List.mem_cons, List.mem_map] at member
      rcases member with rfl | ⟨segment, _, rfl⟩ <;> rfl
    case h_2 rateLimit _ =>
      split at member
      case isFalse =>
        simp only [List.mem_cons, List.mem_map] at member
        rcases member with rfl | ⟨segment, _, rfl⟩ <;> rfl
      case isTrue =>
        simp only [refusal_log, List.mem_append, List.mem_cons, List.mem_map] at member
        rcases member with (rfl | ⟨segment, _, rfl⟩) | ⟨event, _, rfl⟩ <;> rfl

theorem send_ids (connection : Connection) (id : String) (call : Call) (exchange : Exchange)
    (elapsed : Float) :
    (∀ sent ∈ (connection.send id call exchange elapsed).sent, sent.id = id) ∧
      ∀ entry ∈ (connection.send id call exchange elapsed).log, entry.id = id := by
  constructor
  · intro sent member
    obtain ⟨_, _, rfl⟩ := send_sent member
    rfl
  · intro entry member
    rcases send_cases connection id call exchange elapsed with
      ⟨_, _, outcome, _⟩ | ⟨request, response, outcome, _⟩
    · rw [outcome] at member
      contradiction
    · rw [outcome] at member
      exact receive_ids member

end Connection

namespace Session

open Connection (Warns elapsedMillis events responseFault? returned? receive_log send_ids
  unmarkedResponse unmarked_refused warnings warnings_warns)

section Calls
variable [Platform] {settings : Settings} {session start : Session} {operation : Operation}
  {exchange : Exchange} {elapsed : Float} {response : Response}

theorem received_iff :
    session.received? (.perform operation exchange elapsed) = some response ↔
      ∃ call request, session.Sends operation call request ∧ exchange = .answered response ∧
        responseFault? request.withCredentials response = none := by
  simp only [received?]
  constructor
  · intro received
    cases sent : (session.perform operation exchange elapsed).sent with
    | nil =>
        rw [sent] at received
        cases exchange <;> contradiction
    | cons first rest =>
        have member : first ∈ (session.perform operation exchange elapsed).sent := by
          rw [sent]
          exact List.mem_cons_self
        obtain ⟨call, request, sends⟩ := sends_of_sent member
        rw [perform_sends sends] at received
        cases exchange with
        | broken kind message => contradiction
        | answered response =>
            simp only [returned?, Option.isNone_iff_eq_none, Option.ite_none_right_eq_some,
              Option.some.injEq] at received
            obtain ⟨fits, rfl⟩ := received
            exact ⟨call, request, sends, rfl, fits⟩
  · rintro ⟨call, request, sends, rfl, fits⟩
    rw [perform_sends sends]
    simp [returned?, fits]

/-- What a call leaves behind: all that it sends and logs carries its id, and nothing of the id
remains. A response is recorded once, then each malformed segment in order, then the warning. -/
structure Recorded (session : Session) (operation : Operation) (exchange : Exchange)
    (elapsed : Float) : Prop where
  sent : ∀ sent ∈ (session.perform operation exchange elapsed).sent,
    session.callId? (.perform operation exchange elapsed) = some sent.id
  logged : ∀ entry ∈ (session.perform operation exchange elapsed).log,
    session.callId? (.perform operation exchange elapsed) = some entry.id
  scopes : (session.perform operation exchange elapsed).session.ids.scopes = session.ids.scopes
  unanswered : session.received? (.perform operation exchange elapsed) = none →
    (session.perform operation exchange elapsed).log = []
  answered : ∀ response rateLimit,
    session.received? (.perform operation exchange elapsed) = some response →
    (RateLimit.ofFields response.fields).result = .ok rateLimit →
    ∃ call request last, session.Sends operation call request ∧
      Warns request.withCredentials response rateLimit last ∧
      (session.perform operation exchange elapsed).log.map (fun entry =>
          (entry.event.level, entry.event)) =
        (Log.debug, .call call.method call.path response.status (elapsedMillis elapsed)) ::
          (Quota.passedOver (RateLimit.quotaSegments response.fields)).map (fun segment =>
            (Log.debug, .malformedQuota segment)) ++
          last.map fun event => (Log.warning, event)

theorem perform_ids : (∀ sent ∈ (session.perform operation exchange elapsed).sent,
      session.callId? (.perform operation exchange elapsed) = some sent.id) ∧
    ∀ entry ∈ (session.perform operation exchange elapsed).log,
      session.callId? (.perform operation exchange elapsed) = some entry.id := by
  cases called : operation.call with
  | error fault =>
      rw [perform_refused called]
      simp [answer]
  | ok call =>
      have drawn : session.callId? (.perform operation exchange elapsed) = some session.nextId := by
        simp only [callId?, called]
      obtain ⟨sent, logged⟩ :=
        send_ids session.connection session.nextId call exchange elapsed
      rw [perform_called called, drawn]
      constructor
      · intro request member
        rw [sent request member]
      · intro entry member
        rw [logged entry member]

-- Without a response a call has not come as far as its first record.
theorem perform_unanswered
    (unreceived : session.received? (.perform operation exchange elapsed) = none) :
    (session.perform operation exchange elapsed).log = [] := by
  cases called : operation.call with
  | error fault =>
      rw [perform_refused called]
      rfl
  | ok call =>
      rw [perform_called called]
      rcases Connection.send_cases session.connection session.nextId call exchange elapsed with
        ⟨_, _, outcome, _⟩ | ⟨request, response, outcome, fits, rfl⟩
      · rw [outcome]
      · simp only [received?, perform_called called, outcome, Connection.receive_sent, returned?,
          fits, Option.isNone_none, ↓reduceIte] at unreceived
        contradiction

theorem log_levels (request : Request) (response : Response) (rateLimit : Option RateLimit) :
    (warnings request response rateLimit).map (fun event => (event.level, event)) =
      (warnings request response rateLimit).map fun event => (Log.warning, event) := by
  simp only [warnings]
  split
  case h_1 => split <;> rfl
  case h_2 => rfl

theorem perform_recorded (session : Session) (operation : Operation) (exchange : Exchange)
    (elapsed : Float) : Recorded session operation exchange elapsed where
  sent := perform_ids.1
  logged := perform_ids.2
  scopes := by
    have kept := @step_ids _ .standard session (.perform operation exchange elapsed)
    simp only [step] at kept
    rw [kept]
  unanswered := perform_unanswered
  answered := by
    intro response rateLimit received read
    obtain ⟨call, request, sends, rfl, fits⟩ := received_iff.mp received
    refine ⟨call, request, _, sends, warnings_warns, ?_⟩
    rw [perform_answered sends, receive_log fits read, ← log_levels]
    simp only [events, List.map_cons, List.map_append, List.map_map]
    rfl

-- After any history, whatever scopes are open outside, and however the call ends.
theorem calls_recorded (settings : Settings) (start : Session) (history : List Action)
    (operation : Operation) (exchange : Exchange) (elapsed : Float) :
    (start.callIds settings history).Nodup ∧
      (∀ id, (start.after settings history).callId? (.perform operation exchange elapsed) =
        some id → id ∉ start.callIds settings history) ∧
      (start.after settings history).ids.scopes = start.ids.scopes ∧
      Recorded (start.after settings history) operation exchange elapsed ∧
      ∀ fields rateLimit, (RateLimit.ofFields fields).result = .ok rateLimit →
        ∀ segment ∈ RateLimit.quotaSegments fields,
          segment ∈ Quota.passedOver (RateLimit.quotaSegments fields) ↔
            ¬∃ limit bucket, Quota.Describes segment limit bucket := by
  refine ⟨callIds_nodup history, fun id => callId_fresh history, after_scopes history,
    perform_recorded _ operation exchange elapsed, ?_⟩
  intro fields rateLimit read segment member
  have readable := (RateLimit.quotas_read read).2 segment member
  rw [← Quota.parseSegment_none_iff readable, Quota.passedOver, List.mem_filter,
    and_iff_right member, decide_eq_true_eq]

end Calls

section Example

open scoped TenantApi.Stock

-- One good segment between two that are not.
def limitedResponse : Response :=
  ⟨429, [("Auth0-Client-Quota-Limit", "b=per_day,b=per_hour;q=5;r=0;t=60"),
    ("auth0-organization-quota-limit", "b=x;q=1")], [], none⟩

def valuelessResponse : Response := { unmarkedResponse with status := 429 }

def within (session : Session) : Session := { session with ids := ⟨6, ["outer"]⟩ }

theorem within_received (received : (jobSession.toOption.any fun session =>
      ((within session).received?
        (.perform (.getJob "job_1") (.answered response) 0)).isSome) = true) :
    ∃ session, jobSession = .ok session ∧
      (within session).received? (.perform (.getJob "job_1") (.answered response) 0) =
        some response := by
  simp only [Option.any_eq_true, Fallible.toOption_some, Option.isSome_iff_exists] at received
  obtain ⟨session, opened, found, received⟩ := received
  obtain ⟨_, _, _, same, _⟩ := received_iff.mp received
  cases same
  exact ⟨session, opened, received⟩

theorem calls_recorded_limited :
    ∃ (session : Session) (call : Call) (request : Request), jobSession = .ok session ∧
      (within session).Sends (.getJob "job_1") call request ∧
      ((within session).perform (.getJob "job_1") (.answered limitedResponse) 0).log.map
          (fun entry => (entry.event.level, entry.event)) =
        [(Log.debug, .call call.method call.path 429 (elapsedMillis 0)),
          (Log.debug, .malformedQuota "b=per_day"), (Log.debug, .malformedQuota "b=x;q=1"),
          (Log.warning, .rateLimited request.withCredentials.method
            request.withCredentials.url.readablePath 429 none)] ∧
      ((within session).perform (.getJob "job_1") (.answered limitedResponse)
        0).session.ids.current = "outer" := by
  obtain ⟨session, opened, received⟩ : ∃ session, jobSession = .ok session ∧
      (within session).received? (.perform (.getJob "job_1") (.answered limitedResponse) 0) =
        some limitedResponse := within_received (by decide +kernel)
  have read : (RateLimit.ofFields limitedResponse.fields).result =
      .ok (some ⟨none, none, none, some ⟨some ⟨5, 0, 60⟩, none⟩, some .empty⟩) := by
    decide +kernel
  have passed : Quota.passedOver (RateLimit.quotaSegments limitedResponse.fields) =
      ["b=per_day", "b=x;q=1"] := by decide +kernel
  obtain ⟨_, _, _, recorded, _⟩ :=
    calls_recorded .standard (within session) [] (.getJob "job_1") (.answered limitedResponse) 0
  obtain ⟨call, request, last, sends, warns, log⟩ := recorded.answered _ _ received read
  refine ⟨session, call, request, opened, sends, ?_, ?_⟩
  · have warned : last = [.rateLimited request.withCredentials.method
        request.withCredentials.url.readablePath 429 none] := by
      cases warns with
      | limited => rfl
      | valueless _ valueless =>
          obtain ⟨_, ⟨full, _⟩, _⟩ := valueless
          exact absurd rfl full
      | other other => exact absurd rfl other
    rw [passed, warned] at log
    exact log
  · exact congrArg (fun scopes => scopes.head?.getD "") recorded.scopes

theorem valueless_unwarned :
    ¬∀ (session : Session) (operation : Operation) (response : Response) (elapsed : Float)
      (rateLimit : Option RateLimit),
      session.received? (.perform operation (.answered response) elapsed) = some response →
      (RateLimit.ofFields response.fields).result = .ok rateLimit →
      ((∃ entry ∈ (session.perform operation (.answered response) elapsed).log,
        entry.event.level = Log.warning) ↔ response.status = 429) := by
  intro warned
  obtain ⟨session, _, received⟩ : ∃ session, jobSession = .ok session ∧
      (within session).received? (.perform (.getJob "job_1") (.answered valuelessResponse) 0) =
        some valuelessResponse := within_received (by decide +kernel)
  have read : (RateLimit.ofFields valuelessResponse.fields).result = .ok none := by
    decide +kernel
  have refused : valuelessResponse.Refused .unmarked16 := unmarked_refused
  obtain ⟨call, request, sends, _, fits⟩ := received_iff.mp received
  obtain ⟨entry, member, level⟩ := (warned _ _ _ _ _ received read).mpr rfl
  rw [perform_answered sends, receive_log fits read] at member
  simp only [events, warnings, Response.value_error_iff.mpr refused, List.append_nil, List.mem_map,
    List.mem_cons] at member
  have quiet : Log.debug ≠ Log.warning := by decide
  obtain ⟨event, rfl | ⟨segment, _, rfl⟩, rfl⟩ := member
  · exact quiet level
  · exact quiet level

end Example

end Session

end TenantApi
