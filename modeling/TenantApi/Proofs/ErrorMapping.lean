import TenantApi.Platform.Stock
import TenantApi.Proofs.Display
import TenantApi.Proofs.Keyed
import TenantApi.Proofs.ResponseBody
import TenantApi.Proofs.SessionRun

/-!
What a response turns into. Below 400 the response itself is given back. From 400 on there is one
error of the service, and the status, the body and the phrase alone decide what it says; it never
says nothing. The exception is a body that is no structured value under a charset that refuses it:
then the refusal takes the place of the error.
-/

namespace TenantApi

namespace ApiError

def Kind.Covers (status : Int) : Kind → Prop
  | .badRequest => status = 400 ∨ status = 422
  | .unauthorized => status = 401 ∨ status = 403
  | .notFound => status = 404
  | .conflict => status = 409
  | .rateLimit => status = 429
  | .general => status ∉ [400, 401, 403, 404, 409, 422, 429]

theorem ofStatus_covers (status : Int) : (Kind.ofStatus status).Covers status := by
  simp only [Kind.ofStatus, kinds, Keyed.lookup_cons]
  split_ifs <;> simp_all [Kind.Covers]

/-! ### What an error tells -/

section Detail
variable {members : Members} {names : List String} {response : Response} {body value : Json}

def SetTo (members : Members) (name : String) (value : Json) : Prop :=
  members.lookup (.plain name) = some value ∧ value.isTruthy = true

def NoneSet (members : Members) (names : List String) : Prop :=
  ∀ name ∈ names, ∀ value, ¬SetTo members name value

def FirstSet (members : Members) (names : List String) (value : Json) : Prop :=
  ∃ before name after, names = before ++ name :: after ∧ NoneSet members before ∧
    SetTo members name value

def tellers : List String := ["message", "error_description", "description", "error"]

def Silent : Json → Prop
  | .object members => NoneSet members tellers
  | .string text => text = .plain ""
  | _ => True

def IsPhrase (response : Response) (phrase : String) : Prop :=
  (response.reasonText ≠ "" ∧ phrase = response.reasonText) ∨
    (response.reasonText = "" ∧ phrase = "Unknown error")

inductive Tells (response : Response) : Json → LooseText → Prop where
  | member {members : Members} {value : Json} (first : FirstSet members tellers value) :
      Tells response (.object members) value.displayPlain
  | text {text : LooseText} (full : text ≠ .plain "") : Tells response (.string text) text
  | phrase {body : Json} {phrase : String} (silent : Silent body)
      (known : IsPhrase response phrase) : Tells response body phrase

theorem set_iff {name : String} :
    ((Json.object members).get? name).any Json.isTruthy = true ↔
      ∃ value, SetTo members name value := by
  simp [Json.get?, SetTo, Option.any_eq_true]

theorem noneSet_iff :
    NoneSet members names ↔
      ∀ name ∈ names, ((Json.object members).get? name).any Json.isTruthy = false := by
  simp only [NoneSet, ← not_exists, ← set_iff, Bool.not_eq_true]

theorem firstSet_some_iff : firstSet? (.object members) = some value ↔
    FirstSet members tellers value := by
  rw [firstSet?, List.find?_filterMap, Option.bind_eq_some_iff]
  simp only [List.find?_eq_some_iff_append, Bool.not_eq_true', FirstSet, noneSet_iff]
  constructor
  · rintro ⟨name, ⟨truthy, before, after, listed, unset⟩, found⟩
    rw [found] at truthy
    exact ⟨before, name, after, listed, unset, found, truthy⟩
  · rintro ⟨before, name, after, listed, unset, found, truthy⟩
    exact ⟨name, ⟨set_iff.mpr ⟨value, found, truthy⟩, before, after, listed, unset⟩, found⟩

theorem firstSet_none_iff : firstSet? (.object members) = none ↔ NoneSet members tellers := by
  rw [firstSet?, List.find?_eq_none]
  constructor
  · rintro unset name listed value ⟨found, truthy⟩
    exact unset value (List.mem_filterMap.mpr ⟨name, listed, found⟩) truthy
  · intro unset value member truthy
    obtain ⟨name, listed, found⟩ := List.mem_filterMap.mp member
    exact unset name listed value ⟨found, truthy⟩

theorem fallback_phrase (response : Response) : IsPhrase response (fallbackDetail response) := by
  unfold fallbackDetail
  split
  case isTrue bare => exact .inr ⟨bare, rfl⟩
  case isFalse full => exact .inl ⟨full, rfl⟩

theorem detail_tells (response : Response) (body : Json) :
    Tells response body (detailOf response body) := by
  have phrase := fallback_phrase response
  cases body with
  | object members =>
      simp only [detailOf]
      cases found : firstSet? (.object members) with
      | none => exact .phrase (firstSet_none_iff.mp found) phrase
      | some value => exact .member (firstSet_some_iff.mp found)
  | string text =>
      simp only [detailOf]
      split
      case isTrue bare => exact .phrase bare phrase
      case isFalse full => exact .text full
  | null | bool | int | float | array => exact .phrase trivial phrase

-- Whatever is told, it is not nothing.
theorem detail_ne_empty {detail : LooseText} (told : Tells response body detail) :
    detail ≠ .plain "" := by
  cases told with
  | member first =>
      obtain ⟨_, _, _, _, _, _, truthy⟩ := first
      exact Json.displayPlain_ne_empty truthy
  | text full => exact full
  | phrase silent known =>
      rcases known with ⟨full, rfl⟩ | ⟨_, rfl⟩
      · simpa using full
      · decide

end Detail

/-- The value of a member; null when the body has no such member, or is no object at all. -/
def IsMember (body : Json) (name : String) (value : Json) : Prop :=
  (∃ members, body = .object members ∧ members.lookup (.plain name) = some value) ∨
    ((∀ members, body = .object members → members.lookup (.plain name) = none) ∧ value = .null)

theorem get_isMember (body : Json) (name : String) :
    IsMember body name ((body.get? name).getD .null) := by
  cases body with
  | object members =>
      cases found : members.lookup (.plain name) with
      | some value => exact .inl ⟨members, rfl, by simp [Json.get?, found]⟩
      | none => exact .inr ⟨by rintro _ ⟨⟩; exact found, by simp [Json.get?, found]⟩
  | _ => exact .inr ⟨by simp, rfl⟩

variable [Platform]

structure Describes (response : Response) (rateLimit : Option RateLimit) (made : ApiError) :
    Prop where
  status : made.status = response.status
  kind : made.kind.Covers response.status
  body : response.HasValue made.body
  error : IsMember made.body "error" made.error
  errorCode : IsMember made.body "errorCode" made.errorCode
  detail : Tells response made.body made.detail
  someDetail : made.detail ≠ .plain ""
  message : made.message = .plain (toString response.status ++ ": ") ++ made.detail
  rateLimit : made.rateLimit = if made.kind = .rateLimit then rateLimit else none

theorem ofResponse_describes {response : Response} {body : Json} {rateLimit : Option RateLimit}
    (value : response.HasValue body) :
    Describes response rateLimit (ofResponse response body rateLimit) where
  status := rfl
  kind := ofStatus_covers response.status
  body := value
  error := get_isMember body "error"
  errorCode := get_isMember body "errorCode"
  detail := detail_tells response body
  someDetail := detail_ne_empty (detail_tells response body)
  message := by rw [message, Text.ofList_intDigits]; rfl
  rateLimit := rfl

end ApiError

namespace Connection

section Mapping
variable [Platform] {connection : Connection} {id : String} {call : Call} {request : Request}
  {response : Response} {elapsed : Float} {rateLimit : Option RateLimit}

section Receiving
variable (fits : responseFault? request response = none)
  (readable : (RateLimit.ofFields response.fields).result = .ok rateLimit)
include fits readable

theorem receive_good (good : response.status < 400) :
    (connection.receive id call request response elapsed).result = .ok response := by
  have passing : response.isFailure = false := by simpa [Response.isFailure] using good
  simp only [receive, fits, readable, passing, Bool.false_eq_true, ↓reduceIte]

theorem receive_failing (bad : 400 ≤ response.status) :
    (connection.receive id call request response elapsed).result =
      .error (refusal id request response rateLimit).1 := by
  have failing : response.isFailure = true := by simpa [Response.isFailure] using bad
  simp only [receive, fits, readable, failing, ↓reduceIte]

theorem receive_refused {fault : Charset.Refusal} (bad : 400 ≤ response.status)
    (refused : response.Refused fault) :
    (connection.receive id call request response elapsed).result = .error (.undecodable fault) := by
  rw [receive_failing fits readable bad, refusal, Response.value_error_iff.mpr refused]

theorem receive_described (bad : 400 ≤ response.status)
    (accepted : ∀ fault, ¬response.Refused fault) :
    ∃ error, (connection.receive id call request response elapsed).result =
      .error (.service error) ∧ error.Describes response rateLimit := by
  rw [receive_failing fits readable bad]
  rcases refusal_cases id request response rateLimit with ⟨fault, none, _⟩ | ⟨body, value, made⟩
  · exact absurd (Response.value_error_iff.mp none) (accepted fault)
  · exact ⟨_, by rw [made], ApiError.ofResponse_describes (Response.value_ok_iff.mp value)⟩

end Receiving

-- A status from 400 on is what fails, and one error tells of it, unless the body is refused.
theorem receive_mapped (fits : responseFault? request response = none)
    (readable : (RateLimit.ofFields response.fields).result = .ok rateLimit) :
    (response.status < 400 →
      (connection.receive id call request response elapsed).result = .ok response) ∧
    (400 ≤ response.status → (∀ fault, ¬response.Refused fault) →
      ∃ error, (connection.receive id call request response elapsed).result =
        .error (.service error) ∧ error.Describes response rateLimit) ∧
    ∀ fault, 400 ≤ response.status → response.Refused fault →
      (connection.receive id call request response elapsed).result =
        .error (.undecodable fault) :=
  ⟨receive_good fits readable, receive_described fits readable,
    fun _ => receive_refused fits readable⟩

end Mapping

section Example

open scoped TenantApi.Stock

def exampleUrl : Url :=
  ⟨"https".toList, [], "tenant.auth0.com".toList, none, "/".toList, none, none⟩

def exampleConnection : Connection := ⟨exampleUrl, [], .whole 10, none, false⟩

def exampleCall : Call := ⟨"GET", "/", none, Content.none, []⟩

def exampleRequest : Request := ⟨"GET", exampleUrl, [], .empty⟩

-- The first member is there but empty, and the one after it is not there at all.
def describedResponse : Response :=
  ⟨422, [], ("\x7b\"message\":[],\"description\":\x7b\"a\":1\x7d,\"errorCode\":7\x7d".toList.map
    fun c => UInt8.ofNat c.toNat), some "Oops"⟩

theorem receive_mapped_example :
    responseFault? exampleRequest describedResponse = none ∧
      (RateLimit.ofFields describedResponse.fields).result = .ok none ∧
      ∃ error,
        (exampleConnection.receive "" exampleCall exampleRequest describedResponse 0).result =
          .error (.service error) ∧ error.Describes describedResponse none := by
  have fits : responseFault? exampleRequest describedResponse = none := by rfl
  have readable : (RateLimit.ofFields describedResponse.fields).result = .ok none := by
    decide +kernel
  refine ⟨fits, readable, (receive_mapped fits readable).2.1 (by decide) ?_⟩
  rintro fault ⟨_, refuses⟩
  have charset : describedResponse.charset = .utf8 := by decide +kernel
  rw [charset] at refuses
  cases refuses

-- Two bytes for each character of a short text, under a charset of such units, without a mark.
def unmarkedResponse : Response :=
  ⟨500, [("content-type", "text/plain; charset=utf-16")],
    [0x62, 0, 0x6f, 0, 0x6f, 0, 0x6d, 0], none⟩

theorem unmarked_refused : unmarkedResponse.Refused .unmarked16 := by
  have charset : unmarkedResponse.charset = .utf16 none := by decide +kernel
  have unread : (Json.ofBytes unmarkedResponse.body).toOption = none := by decide +kernel
  refine ⟨⟨by simp [unmarkedResponse], ?_⟩, ?_⟩
  · intro value read
    simp [read, Except.toOption] at unread
  · rw [charset]
    refine .unmarked16 ?_ (by decide)
    simp [Charset.Marked16, unmarkedResponse]

theorem failing_response_unmapped :
    ¬∀ (connection : Connection) (id : String) (call : Call) (request : Request)
      (response : Response) (elapsed : Float), responseFault? request response = none →
      (∃ rateLimit, (RateLimit.ofFields response.fields).result = .ok rateLimit) →
      400 ≤ response.status → ∃ error,
        (connection.receive id call request response elapsed).result =
          .error (.service error) := by
  intro mapped
  have fits : responseFault? exampleRequest unmarkedResponse = none := by rfl
  have readable : (RateLimit.ofFields unmarkedResponse.fields).result = .ok none := by
    decide +kernel
  obtain ⟨error, made⟩ := mapped exampleConnection "" exampleCall exampleRequest unmarkedResponse 0
    fits ⟨none, readable⟩ (by decide)
  rw [receive_refused fits readable (by decide) unmarked_refused] at made
  cases made

end Example

end Connection

end TenantApi
