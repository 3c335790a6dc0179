import TenantApi.Platform.Stock
import TenantApi.Proofs.CallRecords
import TenantApi.Proofs.PathContainment

/-!
The two records of a call that is refused for its rate. The record of the call says how it was asked
for, that of the refusal what was sent: the method in capitals and the whole path of the address,
unescaped. They agree as far as these are the same, and the time of the call is in the first alone.
-/

namespace TenantApi

open Fallible (bind_ok mapError_ok)

namespace Url

variable {texts root : List (List Char)} {base url : Url}

theorem unescape_append {text : List Char} (mark : isUnreserved '%' = false) (rest : List Char) :
    unescape (escape isUnreserved text ++ rest) = Utf8.encode text ++ unescape rest := by
  induction text with
  | nil => rfl
  | cons c more ih =>
      have step : escape isUnreserved (c :: more) =
          escapeChar isUnreserved c ++ escape isUnreserved more := List.flatMap_cons
      rw [step, List.append_assoc, unescape_char mark, ih, ← List.append_assoc]
      rfl

theorem unescape_pathOf (texts : List (List Char)) :
    unescape (pathOf (texts.map (escape isUnreserved))) = Utf8.encode (pathOf texts) := by
  have mark : isUnreserved '%' = false := by decide
  induction texts with
  | nil => rfl
  | cons text rest ih =>
      cases rest with
      | nil => exact unescape_escape mark text
      | cons next others =>
          have slash (after : List Char) :
              unescape ('/' :: after) = Utf8.charBytes '/' ++ unescape after := rfl
          rw [List.map_cons, pathOf_cons _ (by simp), pathOf_cons _ (by simp), unescape_append mark,
            slash, ih]
          simp [Utf8.encode]

-- To a reader, segments that were escaped are the texts that they stand for.
theorem decodeLossy_pathOf (texts : List (List Char)) :
    decodeLossy (pathOf (texts.map (escape isUnreserved))) = pathOf texts := by
  rw [decodeLossy, unescape_pathOf, Utf8.decodeLossy_encode]

theorem escape_escaped (texts : List (List Char)) : Escaped (texts.map (escape isUnreserved)) := by
  intro piece member
  obtain ⟨text, _, rfl⟩ := List.mem_map.mp member
  exact escape_quoted (by decide) text

theorem count_pathOf (texts : List (List Char)) (some : texts ≠ []) :
    (pathOf texts).count '/' + 1 = texts.length + (texts.map (List.count '/')).sum := by
  induction texts with
  | nil => contradiction
  | cons text rest ih =>
      cases rest with
      | nil => simp [pathOf, Text.join, Nat.add_comm]
      | cons next others =>
          have tail := ih (by simp)
          rw [pathOf_cons _ (by simp), List.count_append, List.count_cons_self]
          simp only [List.length_cons, List.map_cons, List.sum_cons] at tail ⊢
          omega

theorem slashless_iff (texts : List (List Char)) :
    (texts.map (List.count '/')).sum = 0 ↔ ∀ text ∈ texts, '/' ∉ text := by
  simp [List.sum_eq_zero_iff, List.count_eq_zero]

/-- Texts below others, read without escapes, are a slash and their own escapes exactly when the
others are the root alone and no text has anything to escape. -/
theorem pathOf_unescaped_iff (below : root ≠ []) (some : texts ≠ []) :
    pathOf (root ++ texts) = '/' :: pathOf (texts.map (escape isUnreserved)) ↔
      root = [[]] ∧ texts.map (escape isUnreserved) = texts := by
  have given : texts.map (escape isUnreserved) ≠ [] := by simpa using some
  have front : pathOf ([] :: texts.map (escape isUnreserved)) =
      '/' :: pathOf (texts.map (escape isUnreserved)) := pathOf_cons [] given
  rw [← front]
  constructor
  · intro same
    -- The escapes have a slash in front of each of them and no other.
    have cut : ∀ piece ∈ [] :: texts.map (escape isUnreserved), '/' ∉ piece :=
      List.forall_mem_cons.mpr ⟨List.not_mem_nil, slashless (escape_escaped texts)⟩
    have slashes := congrArg (List.count '/') same
    have left := count_pathOf (root ++ texts) (by simp [below])
    have right := count_pathOf ([] :: texts.map (escape isUnreserved)) (by simp)
    have rooted := List.length_pos_iff.mpr below
    rw [(slashless_iff _).mpr cut, List.length_cons, List.length_map] at right
    rw [List.length_append] at left
    have free := (slashless_iff (root ++ texts)).mp (by omega)
    have pieces : root ++ texts = [] :: texts.map (escape isUnreserved) := by
      rw [← Text.splitAt_join (root ++ texts) (by simp [below]) free,
        ← Text.splitAt_join ([] :: texts.map (escape isUnreserved)) (by simp) cut]
      exact congrArg (Text.splitAt '/') same
    have single : root.length = 1 := by omega
    have whole : root ++ texts = [[]] ++ texts.map (escape isUnreserved) := pieces
    obtain ⟨alone, same⟩ := List.append_inj whole single
    exact ⟨alone, same.symm⟩
  · rintro ⟨rfl, same⟩
    rw [same]
    rfl

end Url

namespace Request

open Url (pathOf escape isUnreserved isDot escape_escaped)

/-- A path of escaped texts below a base whose own path is of such texts, none of them dots. -/
structure Below (base : Url) (path : String) (root texts : List (List Char)) : Prop where
  rooted : base.Rooted (root.map (escape isUnreserved))
  below : root ≠ []
  front : ∃ first others, texts = first :: others ∧ first ≠ []
  undotted : ∀ piece ∈ (root ++ texts).map (escape isUnreserved), isDot piece = false
  text : path.toList = '/' :: pathOf (texts.map (escape isUnreserved))

theorem withCredentials_method (request : Request) :
    request.withCredentials.method = request.method := by
  simp only [withCredentials]
  split <;> rfl

variable [Platform] {texts root : List (List Char)} {base url : Url} {own : Fields} {call : Call}
  {request : Request} {path : String}

theorem ofCall_method (made : ofCall base own call = .ok request) :
    request.method = String.ofList (Text.upper call.method.toList) := by
  simp only [ofCall, bind_ok] at made
  obtain ⟨_, _, _, _, _, _, _, _, built⟩ := made
  cases built
  rfl

theorem address_readable (lies : Below base path root texts) (made : address base path = .ok url) :
    url.readablePath = String.ofList (pathOf (root ++ texts)) := by
  obtain ⟨first, others, shape, some⟩ := lies.front
  have given : escape isUnreserved first ≠ [] := by
    intro empty
    have nothing : escape isUnreserved first = escape isUnreserved [] := empty
    exact some (Url.escape_injective (by decide) nothing)
  have below : root.map (escape isUnreserved) ≠ [] := by simpa using lies.below
  have located := address_segments lies.rooted below (escape_escaped root)
    (by rw [shape, List.map_cons]) given (escape_escaped texts) lies.text made
  rw [← List.map_append, Url.undot_clean lies.undotted] at located
  have visible : url.path ≠ [] := by
    rw [located, List.map_append, Url.pathOf_append below (by simp [shape])]
    simp
  rw [Url.readablePath, if_neg (by simpa using visible), located, Url.decodeLossy_pathOf]

/-- The path of such an address reads as it was asked for exactly when the base has no path of its
own and nothing in the call's path is escaped. -/
theorem readablePath_iff (lies : Below base call.path root texts) (plain : call.params = none)
    (made : ofCall base own call = .ok request) :
    request.url.readablePath = call.path ↔
      root = [[]] ∧ texts.map (escape isUnreserved) = texts := by
  obtain ⟨first, others, shape, _⟩ := lies.front
  rw [address_readable lies (ofCall_url plain made),
    ← Url.pathOf_unescaped_iff lies.below (by simp [shape]), ← lies.text, ← String.toList_inj,
    String.toList_ofList]

end Request

def Log.Event.Agrees (first second : Log.Event) (name : String) : Prop :=
  first.attributes.lookup (.plain name) = second.attributes.lookup (.plain name)

namespace Connection

variable [Platform] {connection : Connection} {id : String} {call : Call} {request : Request}
  {response : Response} {elapsed : Float}

/-- The record of the refusal, if there is one, is the last, and that of the call the first. -/
theorem receive_limited_log (limited : response.status = 429)
    (warned : ∃ entry ∈ (connection.receive id call request response elapsed).log,
      entry.event.level = Log.warning) :
    ∃ rateLimit, (RateLimit.ofFields response.fields).result = .ok rateLimit ∧
      (connection.receive id call request response elapsed).log =
        ⟨id, .call call.method call.path 429 (elapsedMillis elapsed)⟩ ::
          (Quota.passedOver (RateLimit.quotaSegments response.fields)).map (fun segment =>
            ⟨id, .malformedQuota segment⟩) ++
          [⟨id, .rateLimited request.method request.url.readablePath 429
            (rateLimit.bind RateLimit.remaining)⟩] := by
  have quiet : Log.debug ≠ Log.warning := by decide
  obtain ⟨entry, member, level⟩ := warned
  cases fits : responseFault? request response with
  | some failure =>
      simp only [receive, fits] at member
      contradiction
  | none =>
      cases read : (RateLimit.ofFields response.fields).result with
      | error fault =>
          simp only [receive, fits, read, List.mem_cons, List.mem_map] at member
          rcases member with rfl | ⟨segment, _, rfl⟩
          · exact absurd level quiet
          · exact absurd level quiet
      | ok rateLimit =>
          refine ⟨rateLimit, rfl, ?_⟩
          rw [receive_log fits read] at member ⊢
          have last : Warns request response rateLimit (warnings request response rateLimit) :=
            warnings_warns
          unfold events at member ⊢
          generalize warnings request response rateLimit = warned at last member ⊢
          cases last with
          | limited => simp [limited]
          | valueless =>
              simp only [List.append_nil, List.map_cons, List.map_map, List.mem_cons, List.mem_map,
                Function.comp_apply] at member
              rcases member with rfl | ⟨segment, _, rfl⟩
              · exact absurd level quiet
              · exact absurd level quiet
          | other other => exact absurd limited other

end Connection

namespace Session

open Connection (elapsedMillis)
open Url (pathOf escape isUnreserved isDot)

section Calls
variable [Platform] {session : Session} {operation : Operation} {call : Call} {request : Request}
  {response : Response} {elapsed : Float}

theorem limited_log (sends : session.Sends operation call request)
    (limited : response.status = 429)
    (warned : ∃ entry ∈ (session.perform operation (.answered response) elapsed).log,
      entry.event.level = Log.warning) :
    ∃ rateLimit, (RateLimit.ofFields response.fields).result = .ok rateLimit ∧
      (session.perform operation (.answered response) elapsed).log =
        ⟨session.nextId, .call call.method call.path 429 (elapsedMillis elapsed)⟩ ::
          (Quota.passedOver (RateLimit.quotaSegments response.fields)).map (fun segment =>
            ⟨session.nextId, .malformedQuota segment⟩) ++
          [⟨session.nextId, .rateLimited (String.ofList (Text.upper call.method.toList))
            request.url.readablePath 429 (rateLimit.bind RateLimit.remaining)⟩] := by
  rw [perform_answered sends] at warned ⊢
  rw [← Request.ofCall_method sends.2.1, ← Request.withCredentials_method request,
    ← Request.withCredentials_url request]
  exact Connection.receive_limited_log limited warned

/-- A refusal for too many calls is recorded last, and the call first, under one id. The two records
agree in the status always, in the method when the call has it in capitals, and in the path when
that reads like the path of the address; the time of the call is never in the second. -/
theorem limited_records_agree_iff (sends : session.Sends operation call request)
    (limited : response.status = 429)
    (warned : ∃ entry ∈ (session.perform operation (.answered response) elapsed).log,
      entry.event.level = Log.warning) :
    ∃ rateLimit record between refusal,
      (RateLimit.ofFields response.fields).result = .ok rateLimit ∧
      (session.perform operation (.answered response) elapsed).log =
        ⟨session.nextId, record⟩ :: between ++ [⟨session.nextId, refusal⟩] ∧
      record.level = Log.debug ∧ refusal.level = Log.warning ∧
      (∀ entry ∈ between, entry.event.level = Log.debug) ∧
      record.Agrees refusal "status_code" ∧
      (record.Agrees refusal "http_method" ↔
        String.ofList (Text.upper call.method.toList) = call.method) ∧
      (record.Agrees refusal "path" ↔ request.url.readablePath = call.path) ∧
      (∀ root texts, Request.Below session.connection.base call.path root texts →
        call.params = none →
        (record.Agrees refusal "path" ↔
          root = [[]] ∧ texts.map (escape isUnreserved) = texts)) ∧
      record.attributes.lookup (.plain "elapsed_ms") = some (.float (elapsedMillis elapsed)) ∧
      refusal.attributes.lookup (.plain "elapsed_ms") = none ∧
      refusal.attributes.lookup (.plain "rate_limit_remaining") =
        some (((rateLimit.bind RateLimit.remaining).map Json.int).getD .null) := by
  obtain ⟨rateLimit, read, log⟩ := limited_log sends limited warned
  refine ⟨rateLimit, _, _, _, read, log, rfl, rfl, ?_, rfl, ?_, ?_, ?_, rfl, rfl, rfl⟩
  · intro entry member
    obtain ⟨segment, _, rfl⟩ := List.mem_map.mp member
    rfl
  · simp [Log.Event.Agrees, Log.Event.attributes, eq_comm]
  · simp [Log.Event.Agrees, Log.Event.attributes, Keyed.lookup_cons, eq_comm]
  · intro root texts lies plain
    rw [← Request.readablePath_iff lies plain sends.2.1]
    simp [Log.Event.Agrees, Log.Event.attributes, Keyed.lookup_cons, eq_comm]

end Calls

section Example

open scoped TenantApi.Stock

def limitedSession : Except Failure Session :=
  ((Connection.new .standard "3.11.0" "https://tenant.auth0.com/" none [] none).mapError
    .request).map ofConnection

def limitedCall : Call := ⟨"GET", "/x", none, .none, []⟩

def spentResponse : Response :=
  ⟨429, [("X-RateLimit-Limit", "50"), ("X-RateLimit-Remaining", "0"),
    ("X-RateLimit-Reset", "1700000060")], [], none⟩

theorem limited_warned : ∃ (session : Session) (request : Request),
    limitedSession = .ok session ∧ session.Sends (.request limitedCall) limitedCall request ∧
      Request.Below session.connection.base limitedCall.path [[]] [['x']] ∧
      ∃ entry ∈ (session.perform (.request limitedCall) (.answered spentResponse) 0).log,
        entry.event.level = Log.warning := by
  have ready : isReady limitedSession (.request limitedCall) (fun _ => true) = true := by
    decide +kernel
  obtain ⟨session, call, request, built, sends, _⟩ := sends_of_ready ready
  have called : call = limitedCall := (Except.ok.inj sends.1).symm
  subst called
  have base : (limitedSession.toOption.all fun session => session.connection.base.scheme ≠ [] &&
      session.connection.base.path = ['/'] && session.connection.base.query = none) = true := by
    decide +kernel
  have warned : (limitedSession.toOption.any fun session =>
      (session.perform (.request limitedCall) (.answered spentResponse) 0).log.any fun entry =>
        entry.event.level = Log.warning) = true := by decide +kernel
  rw [Fallible.toOption_some.mpr built] at base warned
  simp only [Option.all_some, Bool.and_eq_true, decide_eq_true_eq] at base
  simp only [Option.any_some, List.any_eq_true, decide_eq_true_eq] at warned
  exact ⟨session, request, built, sends,
    ⟨⟨base.1.1, base.1.2, base.2⟩, by simp, ⟨_, _, rfl, by simp⟩, by decide, rfl⟩, warned⟩

theorem limited_records_agree_iff_spent : ∃ (session : Session) (request : Request),
    limitedSession = .ok session ∧ session.Sends (.request limitedCall) limitedCall request ∧
      ∃ record between refusal,
        (session.perform (.request limitedCall) (.answered spentResponse) 0).log =
          ⟨session.nextId, record⟩ :: between ++ [⟨session.nextId, refusal⟩] ∧
        record.level = Log.debug ∧ refusal.level = Log.warning ∧
        record.Agrees refusal "status_code" ∧ record.Agrees refusal "http_method" ∧
        record.Agrees refusal "path" ∧
        record.attributes.lookup (.plain "elapsed_ms") = some (.float (elapsedMillis 0)) ∧
        refusal.attributes.lookup (.plain "elapsed_ms") = none ∧
        refusal.attributes.lookup (.plain "rate_limit_remaining") = some (.int 0) := by
  obtain ⟨session, request, built, sends, lies, warned⟩ := limited_warned
  obtain ⟨rateLimit, record, between, refusal, read, log, first, last, _, status, method, _, place,
    timed, untimed, remaining⟩ := limited_records_agree_iff sends rfl warned
  have spent : (RateLimit.ofFields spentResponse.fields).result =
      .ok (some ⟨some 50, some 0, some 1700000060, none, none⟩) := by decide +kernel
  cases spent.symm.trans read
  exact ⟨session, request, built, sends, record, between, refusal, log, first, last, status,
    method.mpr (by decide +kernel), (place _ _ lies rfl).mpr ⟨rfl, by decide⟩, timed, untimed,
    remaining⟩

-- The refusal does not say how long the call took, although the call's own record does.
theorem refusal_untimed :
    ¬∀ (session : Session) (operation : Operation) (response : Response) (elapsed : Float)
      (record refusal : Entry), response.status = 429 →
      record ∈ (session.perform operation (.answered response) elapsed).log →
      refusal ∈ (session.perform operation (.answered response) elapsed).log →
      record.event.level = Log.debug → record.event.logger = refusal.event.logger →
      refusal.event.level = Log.warning →
      ∀ name ∈ ["http_method", "path", "status_code", "elapsed_ms"],
        record.event.Agrees refusal.event name := by
  intro agree
  obtain ⟨session, request, _, sends, _, warned⟩ := limited_warned
  obtain ⟨rateLimit, _, log⟩ := limited_log sends rfl warned
  have timed := agree session (.request limitedCall) spentResponse 0
    ⟨session.nextId, .call limitedCall.method limitedCall.path 429 (elapsedMillis 0)⟩
    ⟨session.nextId, .rateLimited (String.ofList (Text.upper limitedCall.method.toList))
      request.url.readablePath 429 (rateLimit.bind RateLimit.remaining)⟩
    rfl (by simp [log]) (by simp [log]) rfl rfl rfl "elapsed_ms" (by simp)
  simp [Log.Event.Agrees, Log.Event.attributes, Keyed.lookup_cons] at timed

end Example

end Session

end TenantApi
