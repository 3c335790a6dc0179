import TenantApi.Proofs.ErrorFamily
import TenantApi.Proofs.JobErrorEncodings

/-!
The errors of a job, asked for through a session. What is resolved is the text of the response, and
without a charset that text has a replacement for every piece of the body that is no character. So
the call and the resolver agree on a body that encodes a text, and on every other body only as far
as the replacements leave nothing that can be resolved.
-/

namespace TenantApi

open Fallible (FailsOnly)

structure Response.Unlabelled (response : Response) : Prop where
  good : 200 ≤ response.status ∧ response.status < 300
  undeclared : ∀ contentType charset, response.field? "content-type" = some contentType →
    ContentType.parameter? contentType "charset" ≠ .ok (some charset)

def Response.Legible (response : Response) : Prop :=
  ∀ contentType fault, response.field? "content-type" = some contentType →
    ContentType.parameter? contentType "charset" ≠ .error fault

def Response.lossyText (response : Response) : String :=
  String.ofList (Utf8.decodeLossy response.body)

namespace JobErrors

/-- The same errors, or errors of one class. -/
inductive Alike : Except Failure Answer → Except Refusal (Option JobErrors) → Prop where
  | value (errors : Option JobErrors) : Alike (.ok (.jobErrors errors)) (.ok errors)
  | refused (seen meant : Refusal) : Alike (.error (.jobErrors seen)) (.error meant)

def answer (resolved : Except Refusal (Option JobErrors)) : Except Failure Answer :=
  (resolved.mapError .jobErrors).map .jobErrors

section Likeness
variable {seen meant : Except Refusal (Option JobErrors)}

theorem alike_self (resolved : Except Refusal (Option JobErrors)) :
    Alike (answer resolved) resolved := by
  cases resolved with
  | ok errors => exact .value errors
  | error refusal => exact .refused refusal refusal

theorem alike_declared {failure : Failure} (alike : Alike (.error failure) meant) :
    failure.Declared := by
  cases alike with
  | refused seen meant => exact .jobErrors seen

theorem alike_refused_iff (meant : Refusal) :
    Alike (answer seen) (.error meant) ↔ ∃ refusal, seen = .error refusal := by
  constructor
  · intro alike
    cases seen with
    | ok errors => cases alike
    | error refusal => exact ⟨refusal, rfl⟩
  · rintro ⟨refusal, rfl⟩
    exact .refused refusal meant

theorem answer_ok_iff {errors : Option JobErrors} :
    answer seen = .ok (.jobErrors errors) ↔ seen = .ok errors := by
  cases seen with
  | ok found => simp [answer, Except.map, Except.mapError]
  | error refusal => simp [answer, Except.map, Except.mapError]

-- Resolving the text that lossy decoding gives is as good as resolving the bytes where they encode
-- a text, or where nothing can be made of the text anyway.
theorem lossy_alike_iff {octets : Octets} {lossy : String}
    (replaced : lossy = String.ofList (Utf8.decodeLossy octets)) :
    Alike (answer (resolve (.text lossy))) (resolve (.bytes octets)) ↔
      (∃ text, octets = Utf8.encode text) ∨ ∃ refusal, resolve (.text lossy) = .error refusal := by
  by_cases encoding : ∃ text, octets = Utf8.encode text
  · obtain ⟨text, rfl⟩ := encoding
    rw [Utf8.decodeLossy_encode] at replaced
    have encoded : text = lossy.toList := by rw [replaced, String.toList_ofList]
    rw [encoded, resolve_encode]
    exact iff_of_true (alike_self _) (.inl ⟨lossy.toList, rfl⟩)
  · have foreign := mt encoding_dropMark.mp encoding
    obtain ⟨fault, stuck⟩ := (Utf8.decode_total _).resolve_left foreign
    rw [resolve_notUtf8 stuck, alike_refused_iff, or_iff_right encoding]

end Likeness

end JobErrors

namespace Response

variable [Platform] {response : Response}

theorem unlabelled_charset (unlabelled : response.Unlabelled) :
    response.charset = .utf8 ∨ ∃ contentType fault,
      response.field? "content-type" = some contentType ∧
        ContentType.parameter? contentType "charset" = .error fault ∧
          response.charset = .refused (.parameters fault) := by
  rw [Response.charset]
  cases given : response.field? "content-type" with
  | none => exact .inl rfl
  | some contentType =>
      simp only [Charset.ofContentType]
      cases read : ContentType.parameter? contentType "charset" with
      | error fault => exact .inr ⟨contentType, fault, rfl, read, rfl⟩
      | ok found =>
          cases found with
          | none => exact .inl rfl
          | some charset => exact absurd read (unlabelled.undeclared contentType charset given)

theorem unlabelled_text (unlabelled : response.Unlabelled)
    (readable : response.body = [] ∨ response.Legible) :
    response.text = .ok (.plain response.lossyText) := by
  rw [Response.text, lossyText]
  by_cases bare : response.body = []
  · rw [bare]
    rfl
  · rcases unlabelled_charset unlabelled with plain | ⟨contentType, fault, given, read, _⟩
    · rw [if_neg (by simpa using bare), plain]
      rfl
    · exact absurd read (readable.resolve_left bare contentType fault given)

theorem unlabelled_answer (unlabelled : response.Unlabelled)
    (readable : response.body = [] ∨ response.Legible) :
    Shape.jobErrors.read response =
      JobErrors.answer (JobErrors.resolve (.text response.lossyText)) := by
  rw [Shape.read, unlabelled_text unlabelled readable]
  rfl

-- Only the content type can keep the text of an unlabelled body from being read.
theorem unlabelled_textless (unlabelled : response.Unlabelled)
    (unreadable : ¬(response.body = [] ∨ response.Legible)) : response.Textless := by
  obtain ⟨full, illegible⟩ := not_or.mp unreadable
  refine ⟨full, ?_⟩
  rcases unlabelled_charset unlabelled with plain | ⟨_, fault, _, _, refused⟩
  · refine absurd (fun contentType fault given read => ?_) illegible
    rw [Response.charset, given] at plain
    simp only [Charset.ofContentType, read] at plain
    contradiction
  · exact ⟨.parameters fault, refused ▸ .always _⟩

end Response

namespace Session

open JobErrors (Alike resolve)

/-- Nothing about a response but its body stands in the way of its body. -/
structure Arrives (request : Request) (response : Response) : Prop where
  schemed : request.url.scheme ≠ []
  readable : ¬Quota.UnreadableHeaders (some (Header.grouped response.fields))
  legible : response.body = [] ∨ response.Legible

section Calls
variable [Platform] {session : Session} {id : String} {call : Call} {request : Request}
  {response : Response} {elapsed : Float}

theorem unlabelled_fault_iff (unlabelled : response.Unlabelled) :
    Connection.responseFault? request.withCredentials response = none ↔
      request.url.scheme ≠ [] := by
  have unredirected : response.redirection? = none := by
    obtain ⟨low, high⟩ := unlabelled.good
    simp only [Response.redirection?, Response.redirectStatuses, List.contains_eq_mem,
      List.mem_cons, List.not_mem_nil, or_false, decide_eq_true_eq]
    rw [if_neg (by omega)]
  rw [Connection.responseFault_none_iff, Request.withCredentials_url, unredirected]
  simp

section Asking
variable (sends : session.Sends (.getJobErrors id) call request)
include sends

theorem asked_arrived (unlabelled : response.Unlabelled) (arrives : Arrives request response)
    (elapsed : Float) :
    (session.perform (.getJobErrors id) (.answered response) elapsed).result =
      JobErrors.answer (resolve (.text response.lossyText)) := by
  have fits := (unlabelled_fault_iff unlabelled).mpr arrives.schemed
  have good : response.status < 400 := by
    have := unlabelled.good.2
    omega
  cases read : (RateLimit.ofFields response.fields).result with
  | error fault => exact absurd (RateLimit.ofHeaders_error_iff.mp ⟨fault, read⟩) arrives.readable
  | ok rateLimit =>
      rw [perform_result sends, Connection.receive_good fits read good]
      exact Response.unlabelled_answer unlabelled arrives.legible

theorem asked_astray (unlabelled : response.Unlabelled) (astray : ¬Arrives request response)
    (elapsed : Float) :
    ∃ failure, (session.perform (.getJobErrors id) (.answered response) elapsed).result =
      .error failure ∧ ¬failure.Declared := by
  have strays : response.Strays .jobErrors request.withCredentials := by
    by_cases schemeless : request.url.scheme = []
    · exact .address (by rwa [Request.withCredentials_url])
    · by_contra free
      refine astray ⟨schemeless, fun unreadable => free (.quota unreadable), ?_⟩
      by_contra unreadable
      have good : response.status < 400 := by
        have := unlabelled.good.2
        omega
      exact free (.answer good (.jobErrors (Response.unlabelled_textless unlabelled unreadable)))
  by_contra none
  have declared : FailsOnly Failure.Declared
      (session.perform (.getJobErrors id) (.answered response) elapsed).result :=
    fun failure failed => by_contra fun stray => none ⟨failure, failed, stray⟩
  rw [perform_result sends] at declared
  exact Connection.receive_declared_iff.mp declared strays

end Asking

-- What the resolver makes of the text is what the call gives, so that it is like what it makes of
-- the bytes only where no replacement has been resolved.
theorem getJobErrors_alike_iff (sends : session.Sends (.getJobErrors id) call request)
    (unlabelled : response.Unlabelled) (elapsed : Float) :
    (Alike (session.perform (.getJobErrors id) (.answered response) elapsed).result
        (resolve (.bytes response.body)) ↔
      Arrives request response ∧ ((∃ text, response.body = Utf8.encode text) ∨
        ∃ refusal, resolve (.text response.lossyText) = .error refusal)) ∧
    ∀ errors, (session.perform (.getJobErrors id) (.answered response) elapsed).result =
        .ok (.jobErrors errors) ↔
      Arrives request response ∧
        resolve (.text response.lossyText) = .ok errors := by
  by_cases arrives : Arrives request response
  · rw [asked_arrived sends unlabelled arrives elapsed]
    simp only [arrives, true_and]
    exact ⟨JobErrors.lossy_alike_iff rfl, fun errors => JobErrors.answer_ok_iff⟩
  · obtain ⟨failure, failed, stray⟩ := asked_astray sends unlabelled arrives elapsed
    simp only [failed, arrives, false_and, iff_false]
    exact ⟨fun alike => stray (JobErrors.alike_declared alike), fun errors => by simp⟩

end Calls

section Example

open scoped TenantApi.Stock

-- A record whose user is one byte, which begins a character that does not come.
def truncatedResponse : Response :=
  ⟨200, [], [0x5b, 0x7b, 0x22, 0x75, 0x73, 0x65, 0x72, 0x22, 0x3a, 0x22, 0xe9, 0x22, 0x7d, 0x5d],
    none⟩

def replacedText : String := "[\x7b\"user\":\"\ufffd\"\x7d]"

def replacedEntry : Datum := .record [("user", .text "\ufffd"), ("errors", .list [])] []

theorem truncated_unlabelled : truncatedResponse.Unlabelled :=
  ⟨by decide, fun _ _ given => nomatch given⟩

theorem truncated_sends : ∃ (session : Session) (call : Call) (request : Request),
    jobSession = .ok session ∧ session.Sends (.getJobErrors "job_1") call request ∧
      Arrives request truncatedResponse := by
  obtain ⟨session, call, request, built, sends, schemed⟩ :=
    sends_of_ready (show isReady jobSession (.getJobErrors "job_1")
      (fun request => !request.url.scheme.isEmpty) = true by decide +kernel)
  refine ⟨session, call, request, built, sends, ⟨by simpa using schemed, ?_, .inr ?_⟩⟩
  case refine_2 => exact fun _ _ given => nomatch given
  rw [← RateLimit.ofHeaders_error_iff]
  rintro ⟨fault, failed⟩
  contradiction

theorem truncated_resolved :
    resolve (.text truncatedResponse.lossyText) =
      .ok (some (.importErrors [replacedEntry])) := by
  have lossy : truncatedResponse.lossyText = replacedText := by decide
  have read : Json.ofChars replacedText.toList =
      .ok (.array [.object [("user", .string "\ufffd")]]) := by decide +kernel
  have checked : JobErrors.entriesKind.read
      (Datum.ofJson (.array [.object [("user", .string "\ufffd")]])) =
        .ok (.list [replacedEntry]) := by rfl
  obtain ⟨entries, same, valid⟩ := JobErrors.validated_iff.mp checked
  cases same
  rw [lossy]
  exact JobErrors.resolve_records
    ⟨_, _, JobErrors.body_plain (by decide), JobErrors.spells_chars.mpr read, by simp, valid⟩

theorem getJobErrors_alike_iff_truncated :
    ∃ (session : Session) (call : Call) (request : Request),
      session.Sends (.getJobErrors "job_1") call request ∧ truncatedResponse.Unlabelled ∧
      (session.perform (.getJobErrors "job_1") (.answered truncatedResponse) 0).result =
        .ok (.jobErrors (some (.importErrors [replacedEntry]))) := by
  obtain ⟨session, call, request, _, sends, arrives⟩ := truncated_sends
  have answered := (getJobErrors_alike_iff sends truncated_unlabelled 0).2
    (some (.importErrors [replacedEntry]))
  exact ⟨session, call, request, sends, truncated_unlabelled,
    answered.mpr ⟨arrives, truncated_resolved⟩⟩

-- The bytes are refused, and the call takes them for a record of a user that nobody has sent.
theorem truncated_unlike :
    ∃ (session : Session) (call : Call) (request : Request) (fault : Decoding.Fault),
      jobSession = .ok session ∧ session.Sends (.getJobErrors "job_1") call request ∧
      truncatedResponse.Unlabelled ∧ Arrives request truncatedResponse ∧
      resolve (.bytes truncatedResponse.body) = .error (.notUtf8 fault) ∧
      (session.perform (.getJobErrors "job_1") (.answered truncatedResponse) 0).result =
        .ok (.jobErrors (some (.importErrors [replacedEntry]))) ∧
      ¬Alike (session.perform (.getJobErrors "job_1") (.answered truncatedResponse) 0).result
        (resolve (.bytes truncatedResponse.body)) := by
  obtain ⟨session, call, request, built, sends, arrives⟩ := truncated_sends
  have stuck : Utf8.decode (Utf8.dropMark truncatedResponse.body) =
      .error ⟨.utf8, .continuation, 10, [0xe9]⟩ := by decide
  have refused := JobErrors.resolve_notUtf8 stuck
  have answered := asked_arrived sends truncated_unlabelled arrives 0
  rw [truncated_resolved] at answered
  refine ⟨session, call, request, _, built, sends, truncated_unlabelled, arrives, refused,
    answered, fun alike => ?_⟩
  rw [answered, refused, JobErrors.alike_refused_iff] at alike
  obtain ⟨_, same⟩ := alike
  contradiction

end Example

end Session

end TenantApi
