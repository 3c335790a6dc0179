import TenantApi.Proofs.QuotaSegments
import TenantApi.Proofs.SessionRun

/-!
When quota headers stop a call. Reading a header value fails exactly when one of its segments has a
count that is too long to be read, and nothing on the way to the caller holds this back: the call
fails although the service has answered it.
-/

namespace TenantApi

namespace Quota

def UnreadableValue (value : Option String) : Prop :=
  ∃ text, value = some text ∧ ∃ segment ∈ segments text, Unreadable segment

def UnreadableHeaders (headers : Option Grouped) : Prop :=
  UnreadableValue (headers.bind (Header.first? · clientHeader)) ∨
    UnreadableValue (headers.bind (Header.first? · organizationHeader))

variable {headers : Option Grouped} {value : Option String}

theorem empty_readable : ¬Unreadable "" := by
  rintro ⟨parts, bucket, quota, remaining, reset, formed, _⟩
  have read := parts_iff.mpr formed
  simp [parts?, Text.splitAt, part?, Text.cutFirst] at read

theorem parseSingle_error_iff :
    (∃ fault, parseSingle value = .error fault) ↔ ∃ text, value = some text ∧ Unreadable text := by
  cases value with
  | none => simp [parseSingle]
  | some text =>
      by_cases empty : text = ""
      · subst empty
        simp [parseSingle, empty_readable]
      · simp [parseSingle, empty, parseSegment_error_iff]

theorem readSegments_error_iff (list : List String) (limits : Limits) :
    (∃ fault, (readSegments list limits).result = .error fault) ↔
      ∃ segment ∈ list, Unreadable segment := by
  induction list generalizing limits with
  | nil => simp [readSegments]
  | cons segment rest ih =>
      simp only [readSegments, List.exists_mem_cons_iff, ← parseSegment_error_iff]
      simp only [← parseSegment_error_iff] at ih
      cases read : parseSegment segment with
      | error fault => simp
      | ok outcome =>
          cases outcome with
          | none => simpa using ih limits
          | some found => simpa using ih (limits.set found.2 found.1)

theorem readLimits_error_iff :
    (∃ fault, (readLimits value).result = .error fault) ↔ UnreadableValue value := by
  cases value with
  | none => simp [readLimits, UnreadableValue]
  | some text =>
      by_cases empty : text = ""
      · subst empty
        have alone : segments "" = [""] := by decide
        simp [readLimits, UnreadableValue, alone, empty_readable]
      · have whole := readSegments_error_iff (segments text) Limits.empty
        simp only [readLimits, empty, ↓reduceIte, UnreadableValue, Option.some.injEq,
          exists_eq_left', ← whole]
        cases (readSegments (segments text) Limits.empty).result <;> simp [Except.map]

end Quota

namespace RateLimit

theorem ofHeaders_error_iff {headers : Option Grouped} :
    (∃ fault, (ofHeaders headers).result = .error fault) ↔ Quota.UnreadableHeaders headers := by
  have client := @Quota.readLimits_error_iff (headers.bind (Header.first? · Quota.clientHeader))
  have organization :=
    @Quota.readLimits_error_iff (headers.bind (Header.first? · Quota.organizationHeader))
  rw [Quota.UnreadableHeaders, ← client, ← organization]
  cases headers with
  | none => simp [ofHeaders, Quota.readLimits]
  | some entries =>
      cases entries with
      | nil => simp [ofHeaders, Quota.readLimits, Header.first?]
      | cons entry rest =>
          simp only [ofHeaders, Quota.clientLimits, Quota.organizationLimits]
          cases first : (Quota.readLimits
              ((some (entry :: rest)).bind (Header.first? · Quota.clientHeader))).result with
          | error fault => simp
          | ok =>
              cases second : (Quota.readLimits
                  ((some (entry :: rest)).bind
                    (Header.first? · Quota.organizationHeader))).result with
              | error fault => simp
              | ok => simp

end RateLimit

namespace Connection

variable [Platform] {connection : Connection} {id : String} {call : Call} {request : Request}
  {response : Response} {elapsed : Float}

theorem responseFault_other {failure : Failure} {fault : Quota.TooManyDigits}
    (found : responseFault? request response = some failure) : failure ≠ .quota fault := by
  rcases responseFault_cases found with ⟨_, _, rfl⟩ | ⟨_, _, _, _, rfl⟩
  · simp
  · simp

theorem receive_quota_iff :
    (∃ fault, (connection.receive id call request response elapsed).result =
        .error (.quota fault)) ↔
      responseFault? request response = none ∧
        Quota.UnreadableHeaders (some (Header.grouped response.fields)) := by
  rw [← RateLimit.ofHeaders_error_iff, ← RateLimit.ofFields]
  simp only [receive]
  cases found : responseFault? request response with
  | some failure =>
      have other (fault : Quota.TooManyDigits) : failure ≠ .quota fault :=
        responseFault_other found
      simp [other]
  | none =>
      cases read : (RateLimit.ofFields response.fields).result with
      | error fault => simp
      | ok rateLimit =>
          by_cases failed : response.isFailure = true
          · rcases refusal_cases id request response rateLimit with
              ⟨_, _, refused⟩ | ⟨_, _, refused⟩ <;> simp [failed, refused]
          · simp [failed]

end Connection

namespace Session

variable [Platform] {session : Session} {operation : Operation} {response : Response}
  {elapsed : Float}

theorem shape_read_other {shape : Shape} {fault : Quota.TooManyDigits} :
    shape.read response ≠ .error (.quota fault) := by
  intro failed
  cases Shape.read_misfit failed

theorem bind_quota_iff {result : Except Failure Response} {shape : Shape}
    {fault : Quota.TooManyDigits} :
    result.bind shape.read = .error (.quota fault) ↔ result = .error (.quota fault) := by
  cases result with
  | error failure => simp [Except.bind]
  | ok response => simp [Except.bind, shape_read_other]

/-- The request that an operation makes and an open connection sends. -/
def Sends (session : Session) (operation : Operation) (call : Call) (request : Request) : Prop :=
  operation.call = .ok call ∧
    Request.ofCall session.connection.base session.connection.fields call = .ok request ∧
    session.connection.isClosed = false

theorem perform_quota_iff :
    (∃ fault, (session.perform operation (.answered response) elapsed).result =
        .error (.quota fault)) ↔
      ∃ call request, session.Sends operation call request ∧
        Connection.responseFault? request.withCredentials response = none ∧
        Quota.UnreadableHeaders (some (Header.grouped response.fields)) := by
  simp only [perform, Sends]
  cases called : operation.call with
  | error fault => simp [answer]
  | ok call =>
      simp only [exchange, Connection.send]
      cases made : Request.ofCall session.connection.base session.connection.fields call with
      | error fault => simp [Connection.refuse, Except.bind, made]
      | ok request =>
          cases closed : session.connection.isClosed with
          | true => simp [Connection.refuse, Except.bind]
          | false =>
              simp only [Bool.false_eq_true, ↓reduceIte, bind_quota_iff,
                Connection.receive_quota_iff, Except.ok.injEq, and_true]
              simp [made]

end Session

namespace Quota

-- A count of too many digits is all that reading quota headers fails of, and it fails the call.
theorem refusal_exact [Platform] (segment : String) (value : Option String)
    (headers : Option Grouped) (session : Session) (operation : Operation)
    (response : Response) (elapsed : Float) :
    ((∃ fault, parseSegment segment = .error fault) ↔ Unreadable segment) ∧
      ((∃ fault, parseSingle value = .error fault) ↔
        ∃ text, value = some text ∧ Unreadable text) ∧
      ((∃ fault, (readLimits value).result = .error fault) ↔ UnreadableValue value) ∧
      ((∃ fault, (clientLimits headers).result = .error fault) ↔
        UnreadableValue (headers.bind (Header.first? · clientHeader))) ∧
      ((∃ fault, (organizationLimits headers).result = .error fault) ↔
        UnreadableValue (headers.bind (Header.first? · organizationHeader))) ∧
      ((∃ fault, (RateLimit.ofHeaders headers).result = .error fault) ↔
        UnreadableHeaders headers) ∧
      ((∃ fault, (session.perform operation (.answered response) elapsed).result =
          .error (.quota fault)) ↔
        ∃ call request, session.Sends operation call request ∧
          Connection.responseFault? request.withCredentials response = none ∧
          UnreadableHeaders (some (Header.grouped response.fields))) :=
  ⟨parseSegment_error_iff, parseSingle_error_iff, readLimits_error_iff, readLimits_error_iff,
    readLimits_error_iff, RateLimit.ofHeaders_error_iff, Session.perform_quota_iff⟩

section Example

def nines : List Char := List.replicate 4301 '9'

def exampleSegment : String :=
  String.ofList ("b=x".toList ++ ';' :: ("q=".toList ++ nines ++ ';' :: "r=1;t=1".toList))

theorem nines_overlong : Overlong nines := by
  refine ⟨?_, ?_⟩
  · rw [nines, List.all_replicate]
    decide
  · rw [nines, List.length_replicate, Decimal.digitLimit]
    decide

theorem example_segment :
    IsSegment exampleSegment.toList
      [(['b'], ['x']), (['q'], nines), (['r'], ['1']), (['t'], ['1'])] := by
  have unmarked : ';' ∉ "q=".toList ++ nines := by
    rw [List.mem_append]
    rintro (front | digit)
    · exact absurd front (by decide)
    · exact absurd (List.eq_of_mem_replicate digit) (by decide)
  have cut : Text.splitAt ';' exampleSegment.toList =
      ["b=x".toList, "q=".toList ++ nines, "r=1".toList, "t=1".toList] := by
    rw [exampleSegment, String.toList_ofList, Text.splitAt_append _ _ (by decide),
      Text.splitAt_append _ _ unmarked]
    rfl
  have full : nines ≠ [] := by
    apply List.ne_nil_of_length_pos
    rw [nines, List.length_replicate]
    decide
  refine ⟨?_, by simp⟩
  rw [cut]
  refine .cons ⟨rfl, by decide, by simp, by simp⟩ (.cons ⟨rfl, by simp, by simp, full⟩
    (.cons ⟨rfl, by decide, by simp, by simp⟩ (.cons ⟨rfl, by decide, by simp, by simp⟩ .nil)))

theorem segment_refused : ∃ fault, parseSegment exampleSegment = .error fault := by
  have unreadable : Unreadable exampleSegment :=
    ⟨_, ['x'], nines, ['1'], ['1'], example_segment, by simp, by simp, by simp, by simp,
      .inl nines_overlong⟩
  exact parseSegment_error_iff.mpr unreadable

end Example

end Quota

end TenantApi
