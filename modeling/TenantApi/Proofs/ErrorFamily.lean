import TenantApi.Proofs.CallOutcome
import TenantApi.Proofs.ErrorMapping
import TenantApi.Proofs.RateLimitRun

/-!
Errors that are caught as the library's own. An answered call ends in a value or in an error of the
one family of the library, unless the response strays: its address or the place it points to cannot
be dealt with, its quota cannot be read, its body is refused by its charset, or the body of a good
response does not fit what is expected of it. Of the operations only the one for the errors of a job
takes a body that does not fit for an error of the library.
-/

namespace TenantApi

open Fallible (FailsOnly failsOnly_error bind_error map_error mapError_error mapError_ok)

/-- The failures that belong to the one family of errors of the library. -/
inductive Failure.Declared : Failure → Prop where
  | service (error : ApiError) : Declared (.service error)
  | jobErrors (refusal : JobErrors.Refusal) : Declared (.jobErrors refusal)
  | token (expected : IdToken.Expected) (refusal : IdToken.Refusal) :
      Declared (.token expected (.refused refusal))

section Strays
variable [Platform]

def Response.Valueless (response : Response) : Prop := ∃ refusal, response.Refused refusal

def Response.Textless (response : Response) : Prop :=
  response.body ≠ [] ∧ ∃ refusal, Charset.Refuses response.body response.charset refusal

/-- A body out of which an expected answer cannot be read, where nothing provides for that. -/
inductive Shape.Stuck (response : Response) : Shape → Prop where
  | anything (valueless : response.Valueless) : Stuck response .anything
  | nothing (valueless : response.Valueless) : Stuck response .nothing
  | text (textless : response.Textless) : Stuck response .text
  | jobErrors (textless : response.Textless) : Stuck response .jobErrors
  | valueless {expected : Schema.Model} (valueless : response.Valueless) :
      Stuck response (.model expected)
  | unfit {expected : Schema.Model} {value : Json} (has : response.HasValue value)
      (unfit : ∀ data, expected.readJson value ≠ .ok data) : Stuck response (.model expected)

/-- A response that makes a call fail outside of the family. -/
inductive Response.Strays (response : Response) (shape : Shape) (request : Request) : Prop where
  | address (schemeless : request.url.scheme = [])
  | redirection {location : String} (pointed : response.redirection? = some location)
      (nowhere : ∀ url, Redirect.target request.url location ≠ .ok url)
  | quota (unreadable : Quota.UnreadableHeaders (some (Header.grouped response.fields)))
  | error (failing : 400 ≤ response.status) (valueless : response.Valueless)
  | answer (good : response.status < 400) (stuck : shape.Stuck response)

end Strays

theorem mismatch_undeclared (issues : List Schema.Issue) :
    ¬Failure.Declared (.mismatch issues) := by
  rintro ⟨⟩

section Bodies
variable [Platform] {response : Response} {failure : Failure} {shape : Shape}

theorem text_error_iff {refusal : Charset.Refusal} :
    response.text = .error refusal ↔
      response.body ≠ [] ∧ Charset.Refuses response.body response.charset refusal := by
  rw [Response.text]
  by_cases bare : response.body = []
  · simp [bare]
  · rw [if_neg (by simpa using bare), Charset.decode_error_iff]
    simp [bare]

-- Why a body cannot be decoded is told by a failure that is not of the family.
theorem valueless_iff : response.Valueless ↔
    ∃ failure, response.value.mapError Failure.undecodable = .error failure ∧
      ¬failure.Declared := by
  constructor
  · rintro ⟨refusal, refused⟩
    have unread := Response.value_error_iff.mpr refused
    exact ⟨.undecodable refusal, mapError_error.mpr ⟨refusal, unread, rfl⟩, by rintro ⟨⟩⟩
  · rintro ⟨failure, failed, _⟩
    obtain ⟨refusal, unread, _⟩ := mapError_error.mp failed
    exact ⟨refusal, Response.value_error_iff.mp unread⟩

theorem textless_iff : response.Textless ↔
    ∃ failure, response.text.mapError Failure.undecodable = .error failure ∧
      ¬failure.Declared := by
  constructor
  · rintro ⟨full, refusal, refuses⟩
    have unread := text_error_iff.mpr ⟨full, refuses⟩
    exact ⟨.undecodable refusal, mapError_error.mpr ⟨refusal, unread, rfl⟩, by rintro ⟨⟩⟩
  · rintro ⟨failure, failed, _⟩
    obtain ⟨refusal, unread, _⟩ := mapError_error.mp failed
    obtain ⟨full, refuses⟩ := text_error_iff.mp unread
    exact ⟨full, refusal, refuses⟩

theorem stuck_strays (stuck : shape.Stuck response) :
    ∃ failure, shape.read response = .error failure ∧ ¬failure.Declared := by
  cases stuck with
  | anything valueless | nothing valueless =>
      obtain ⟨failure, failed, stray⟩ := valueless_iff.mp valueless
      exact ⟨failure, map_error.mpr failed, stray⟩
  | text textless =>
      obtain ⟨failure, failed, stray⟩ := textless_iff.mp textless
      exact ⟨failure, map_error.mpr failed, stray⟩
  | jobErrors textless =>
      obtain ⟨failure, failed, stray⟩ := textless_iff.mp textless
      exact ⟨failure, bind_error.mpr (.inl failed), stray⟩
  | valueless valueless =>
      obtain ⟨failure, failed, stray⟩ := valueless_iff.mp valueless
      exact ⟨failure, bind_error.mpr (.inl failed), stray⟩
  | @unfit expected value has unfit =>
      cases read : expected.readJson value with
      | ok data => exact absurd read (unfit data)
      | error issues =>
          have valued : response.value.mapError Failure.undecodable = .ok value :=
            mapError_ok.mpr (Response.value_ok_iff.mpr has)
          refine ⟨.mismatch issues, bind_error.mpr (.inr ⟨value, valued, ?_⟩),
            mismatch_undeclared issues⟩
          exact bind_error.mpr (.inl (mapError_error.mpr ⟨issues, read, rfl⟩))

theorem strays_stuck (failed : shape.read response = .error failure) (stray : ¬failure.Declared) :
    shape.Stuck response := by
  cases shape with
  | anything => exact .anything (valueless_iff.mpr ⟨failure, map_error.mp failed, stray⟩)
  | nothing => exact .nothing (valueless_iff.mpr ⟨failure, map_error.mp failed, stray⟩)
  | text => exact .text (textless_iff.mpr ⟨failure, map_error.mp failed, stray⟩)
  | model expected =>
      rcases bind_error.mp failed with unread | ⟨value, valued, failed⟩
      · exact .valueless (valueless_iff.mpr ⟨failure, unread, stray⟩)
      · rcases bind_error.mp failed with unfit | ⟨data, _, done⟩
        · obtain ⟨issues, misread, _⟩ := mapError_error.mp unfit
          have has := Response.value_ok_iff.mp (mapError_ok.mp valued)
          refine .unfit has fun data fits => ?_
          rw [fits] at misread
          contradiction
        · contradiction
  | jobErrors =>
      rcases bind_error.mp failed with unread | ⟨text, _, failed⟩
      · exact .jobErrors (textless_iff.mpr ⟨failure, unread, stray⟩)
      · rcases bind_error.mp failed with unfit | ⟨errors, _, done⟩
        · obtain ⟨refusal, _, rfl⟩ := mapError_error.mp unfit
          exact absurd (.jobErrors refusal) stray
        · contradiction

theorem read_declared_iff : FailsOnly Failure.Declared (shape.read response) ↔
    ¬shape.Stuck response := by
  constructor
  · intro declared stuck
    obtain ⟨failure, failed, stray⟩ := stuck_strays stuck
    exact stray (declared failure failed)
  · intro free failure failed
    by_contra stray
    exact free (strays_stuck failed stray)

end Bodies

namespace Connection

variable [Platform] {connection : Connection} {id : String} {call : Call} {request : Request}
  {response : Response} {elapsed : Float} {shape : Shape}

theorem responseFault_none_iff : responseFault? request response = none ↔
    request.url.scheme ≠ [] ∧
      ∀ location, response.redirection? = some location →
        ∃ url, Redirect.target request.url location = .ok url := by
  simp only [responseFault?, List.isEmpty_iff]
  by_cases schemeless : request.url.scheme = []
  · simp [schemeless]
  · cases pointed : response.redirection? with
    | none => simp [schemeless]
    | some location =>
        cases read : Redirect.target request.url location <;> simp [schemeless, read]

theorem responseFault_undeclared {failure : Failure}
    (found : responseFault? request response = some failure) : ¬failure.Declared := by
  rcases responseFault_cases found with ⟨_, _, rfl⟩ | ⟨_, _, _, _, rfl⟩
  · rintro ⟨⟩
  · rintro ⟨⟩

theorem faulty_strays {failure : Failure}
    (found : responseFault? request response = some failure) : response.Strays shape request := by
  rcases responseFault_cases found with ⟨schemeless, _⟩ | ⟨_, _, pointed, unread, _⟩
  · exact .address schemeless
  · refine .redirection pointed fun url read => ?_
    rw [unread] at read
    contradiction

section Reading
variable {rateLimit : Option RateLimit} (fits : responseFault? request response = none)
  (readable : (RateLimit.ofFields response.fields).result = .ok rateLimit)
include fits readable

-- A response that is read as far as its status can stray only for its body.
theorem strays_iff : response.Strays shape request ↔
    400 ≤ response.status ∧ response.Valueless ∨
      response.status < 400 ∧ shape.Stuck response := by
  obtain ⟨schemed, located⟩ := responseFault_none_iff.mp fits
  constructor
  · intro strays
    cases strays with
    | address schemeless => contradiction
    | redirection pointed nowhere =>
        obtain ⟨url, read⟩ := located _ pointed
        exact absurd read (nowhere url)
    | quota unreadable =>
        obtain ⟨fault, failed⟩ := RateLimit.ofHeaders_error_iff.mpr unreadable
        cases readable.symm.trans failed
    | error failing valueless => exact .inl ⟨failing, valueless⟩
    | answer good stuck => exact .inr ⟨good, stuck⟩
  · rintro (⟨failing, valueless⟩ | ⟨good, stuck⟩)
    · exact .error failing valueless
    · exact .answer good stuck

theorem read_status_iff :
    FailsOnly Failure.Declared
        ((connection.receive id call request response elapsed).result.bind shape.read) ↔
      ¬response.Strays shape request := by
  rw [strays_iff fits readable]
  by_cases failing : 400 ≤ response.status
  · rw [receive_failing fits readable failing]
    rcases refusal_cases id request response rateLimit with ⟨fault, none, made⟩ | ⟨_, some, made⟩
    · rw [made]
      refine iff_of_false ?_ (not_not.mpr (.inl ⟨failing, fault, Response.value_error_iff.mp none⟩))
      intro declared
      cases declared (.undecodable fault) rfl
    · rw [made]
      refine iff_of_true (failsOnly_error (.service _)) ?_
      rintro (⟨_, fault, refused⟩ | ⟨good, _⟩)
      · cases some.symm.trans (Response.value_error_iff.mpr refused)
      · exact absurd good (not_lt.mpr failing)
  · have good : response.status < 400 := not_le.mp failing
    rw [receive_good fits readable good]
    simp only [failing, good, false_and, true_and, false_or]
    exact read_declared_iff

end Reading

-- The cases in the order in which a response is looked at.
theorem receive_declared_iff :
    FailsOnly Failure.Declared
        ((connection.receive id call request response elapsed).result.bind shape.read) ↔
      ¬response.Strays shape request := by
  cases fault : responseFault? request response with
  | some failure =>
      rw [receive_faulty fault]
      refine iff_of_false ?_ (not_not.mpr (faulty_strays fault))
      exact fun declared => responseFault_undeclared fault (declared failure rfl)
  | none =>
      cases read : (RateLimit.ofFields response.fields).result with
      | error unread =>
          have strays : response.Strays shape request :=
            .quota (RateLimit.ofHeaders_error_iff.mp ⟨unread, read⟩)
          have failed : (connection.receive id call request response elapsed).result =
              .error (.quota unread) := by
            simp only [receive, fault, read]
          rw [failed]
          refine iff_of_false ?_ (not_not.mpr strays)
          intro declared
          cases declared (.quota unread) rfl
      | ok rateLimit => exact read_status_iff fault read

end Connection

namespace Session

-- A record is read from an object and from nothing else.
theorem model_reads_object {model : Schema.Model} {value : Json} {data : Datum}
    (read : model.readJson value = .ok data) : ∃ members, value = .object members := by
  cases value with
  | object members => exact ⟨members, rfl⟩
  | _ => contradiction

section Performing
variable [Platform] {session : Session} {operation : Operation} {call : Call} {request : Request}
  {response : Response} {elapsed : Float}

theorem perform_result (sends : session.Sends operation call request) :
    (session.perform operation (.answered response) elapsed).result =
      ((session.connection.receive (session.ids.enter none).current call request.withCredentials
        response elapsed).result).bind operation.shape.read := by
  rw [perform_answered sends]
  rfl

-- The second part is what makes an empty body a failure of its own: it counts as null, and neither
-- that nor a text, a list or a number is ever a record.
theorem perform_declared_iff (sends : session.Sends operation call request) (response : Response)
    (elapsed : Float) :
    (FailsOnly Failure.Declared (session.perform operation (.answered response) elapsed).result ↔
        ¬response.Strays operation.shape request.withCredentials) ∧
      ∀ model value, operation.shape = .model model → response.status < 400 →
        response.HasValue value → (∀ members, value ≠ .object members) →
        response.Strays operation.shape request.withCredentials := by
  constructor
  · rw [perform_result sends]
    exact Connection.receive_declared_iff
  · intro model value shaped good has other
    rw [shaped]
    refine .answer good (.unfit has fun data read => ?_)
    obtain ⟨members, same⟩ := model_reads_object read
    exact other members same

end Performing

section Example

open scoped TenantApi.Stock

def jobSession : Except Failure Session :=
  management .standard "3.11.0" (some "tenant.auth0.com") (some "token") none

def noContent : Response := ⟨204, [], [], none⟩

theorem job_sends : ∃ (session : Session) (call : Call) (request : Request),
    jobSession = .ok session ∧ session.Sends (.getJob "job_1") call request := by
  obtain ⟨session, call, request, built, sends, _⟩ :=
    sends_of_ready (show isReady jobSession (.getJob "job_1") (fun _ => true) = true by
      decide +kernel)
  exact ⟨session, call, request, built, sends⟩

theorem perform_declared_iff_no_content :
    ∃ (session : Session) (call : Call) (request : Request),
      jobSession = .ok session ∧ session.Sends (.getJob "job_1") call request ∧
      noContent.Strays (Operation.getJob "job_1").shape request.withCredentials ∧
      ¬FailsOnly Failure.Declared
        (session.perform (.getJob "job_1") (.answered noContent) 0).result := by
  obtain ⟨session, call, request, built, sends⟩ := job_sends
  have declared := perform_declared_iff sends noContent 0
  have strays := declared.2 Resource.job .null rfl (by decide) (.empty rfl) (by simp)
  exact ⟨session, call, request, built, sends, strays, fun only => declared.1.mp only strays⟩

-- A job is asked for and there is no content: the body counts as null, and that is no job.
theorem no_content_undeclared :
    ∃ (session : Session) (call : Call) (request : Request) (issues : List Schema.Issue),
      jobSession = .ok session ∧ session.Sends (.getJob "job_1") call request ∧
      (session.perform (.getJob "job_1") (.answered noContent) 0).result =
        .error (.mismatch issues) ∧ ¬Failure.Declared (.mismatch issues) := by
  obtain ⟨session, call, request, built, sends⟩ := job_sends
  have failed : (jobSession.toOption.map fun session =>
      match (session.perform (.getJob "job_1") (.answered noContent) 0).result with
        | .error (.mismatch issues) => some issues
        | _ => none) = some (some [⟨.notModel, []⟩]) := by decide +kernel
  rw [Fallible.toOption_some.mpr built, Option.map_some, Option.some.injEq] at failed
  split at failed
  case h_1 issues same =>
    exact ⟨session, call, request, issues, built, sends, same, mismatch_undeclared issues⟩
  case h_2 => contradiction

end Example

end Session

end TenantApi
