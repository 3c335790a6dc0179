import TenantApi.Platform.Stock
import TenantApi.Proofs.HeaderLayers
import TenantApi.Proofs.SessionRun
import TenantApi.Proofs.UserInfo

/-!
The fields of a request that is sent. They come in layers: the user information of the address, the
fields of the call, those given for the connection, the library's own, and the content type of the
body. Each name is carried once, with the value of its first layer, unless a field given for the
connection is spelled otherwise than the library's own field of its name.
-/

namespace TenantApi

open Fallible (bind_ok mapError_ok)
open Header (Carries Distinct SpelledAlike has prevailing sameName setAll valuesOf)

namespace Connection

def libraryFields (runtimeVersion : String) (token : Option String) : Fields :=
  ("Auth0-Client", Telemetry.headerValue runtimeVersion) ::
    if token.getD "" = "" then [] else [("Authorization", "Bearer " ++ token.getD "")]

theorem libraryFields_distinct (runtimeVersion : String) (token : Option String) :
    Distinct (libraryFields runtimeVersion token) := by
  have apart : Header.sameName "Auth0-Client" "Authorization" = false := by decide
  rw [libraryFields]
  split
  case isTrue => exact List.pairwise_singleton ..
  case isFalse => simp [Distinct, apart]

theorem ownFields_layers (runtimeVersion : String) (token : Option String) (given : Fields) :
    ownFields runtimeVersion token given =
      setAll (libraryFields runtimeVersion token) given := by
  cases token with
  | none => rfl
  | some token =>
      by_cases empty : token = ""
      · subst empty
        rfl
      · simp only [ownFields, libraryFields, Header.setAll, Option.getD_some, empty, ↓reduceIte]
        rfl

theorem new_fields [Platform] {settings : Settings} {runtimeVersion base : String}
    {token : Option String} {given : Fields} {timeout : Option Number} {connection : Connection}
    (made : new settings runtimeVersion base token given timeout = .ok connection) :
    connection.fields = ownFields runtimeVersion token given := by
  obtain ⟨_, _, _, _, rfl⟩ := new_made made
  rfl

end Connection

namespace Request

def credentialFields (url : Url) : Fields :=
  ((basicCredentials? url).map fun value => ("Authorization", value)).toList

def contentFields (body : Body) : Fields :=
  (body.contentType?.map fun value => ("Content-Type", value)).toList

variable {base : Url} {own : Fields} {call : Call} {request : Request} {fields : Fields}
  {lower : List Fields} {name : String}

theorem withCredentials_fields (request : Request) :
    request.withCredentials.fields =
      Header.override request.fields (credentialFields request.url) := by
  cases found : basicCredentials? request.url with
  | none => simp [withCredentials, credentialFields, found, Header.override, Header.has]
  | some value => simp [withCredentials, credentialFields, found]

-- The content type of the body stands back behind every other layer.
theorem withContentType_carries (body : Body) (carried : Carries fields lower name) :
    Carries (withContentType fields body) (lower ++ [contentFields body]) name := by
  cases announced : body.contentType? with
  | none =>
      have nothing : prevailing [contentFields body] name = none := by
        simp [prevailing, contentFields, announced, Header.firstValue?]
      simp only [withContentType, announced]
      rw [Carries, Header.prevailing_append, nothing, Option.or_none]
      exact carried
  | some value =>
      have layer : contentFields body = [("Content-Type", value)] := by
        simp [contentFields, announced]
      simp only [withContentType, announced, layer]
      split
      case isTrue there => exact Header.keep_carries carried there
      case isFalse absent => exact Header.append_carries carried (Bool.not_eq_true _ ▸ absent)

theorem withContentType_there (body : Body) (there : has fields name = true) :
    valuesOf (withContentType fields body) name = valuesOf fields name := by
  simp only [withContentType]
  split
  case h_1 => rfl
  case h_2 value _ =>
    split
    case isTrue => rfl
    case isFalse absent =>
      rw [Header.valuesOf_append]
      by_cases named : sameName contentTypeName name = true
      · rw [Header.has_congr named] at absent
        contradiction
      · rw [if_neg named, List.append_nil]

/-- Where the fields of a request come from, the layer that counts first. -/
def layers (request : Request) (call : Call) (given library : Fields) : List Fields :=
  [credentialFields request.url, call.fields, given, library, contentFields request.body]

theorem withCredentials_layers (request : Request) (call : Call) (given library : Fields) :
    request.withCredentials.layers call given library = request.layers call given library := by
  have body : request.withCredentials.body = request.body := by
    simp only [withCredentials]
    split <;> rfl
  rw [layers, layers, withCredentials_url, body]

theorem credentialFields_anonymous {url : Url} (anonymous : url.Anonymous) :
    credentialFields url = [] := by
  simp [credentialFields, basicCredentials?, anonymous.userInfo, Text.cutFirst]

theorem credentialFields_distinct (url : Url) : Distinct (credentialFields url) := by
  cases found : basicCredentials? url <;> simp [Distinct, credentialFields, found]

variable [Platform] {given library : Fields}

theorem ofCall_fields (made : ofCall base own call = .ok request) :
    request.fields = withContentType (Header.override own call.fields) request.body := by
  simp only [ofCall, bind_ok, mapError_ok] at made
  obtain ⟨_, _, _, _, _, _, body, _, built⟩ := made
  simp only [pure, Except.pure, Except.ok.injEq] at built
  subst built
  rfl

-- Nothing need be known of a name in a layer that stands behind another one with the name.
theorem ofCall_carries (made : ofCall base (setAll library given) call = .ok request)
    (libraryOnce : Distinct library) (givenOnce : Distinct given) (callOnce : Distinct call.fields)
    (alike : has (credentialFields request.url) name = false → has call.fields name = false →
      SpelledAlike library given name) :
    Carries request.withCredentials.fields (request.layers call given library) name := by
  rw [withCredentials_fields, ofCall_fields made]
  refine Header.override_carries (credentialFields_distinct request.url) fun unsigned => ?_
  change Carries _ ([call.fields, given, library] ++ [contentFields request.body]) name
  refine withContentType_carries request.body ?_
  refine Header.override_carries callOnce fun unnamed => ?_
  exact Header.setAll_carries libraryOnce givenOnce (alike unsigned unnamed)

theorem ofCall_respelled {own field : String × String}
    (made : ofCall base (setAll library given) call = .ok request)
    (libraryOnce : Distinct library) (givenOnce : Distinct given) (old : own ∈ library)
    (new : field ∈ given) (named : sameName field.1 own.1 = true) (respelled : field.1 ≠ own.1)
    (unsigned : has (credentialFields request.url) own.1 = false)
    (unnamed : has call.fields own.1 = false) :
    valuesOf request.withCredentials.fields own.1 = [own.2, field.2] := by
  have both := Header.valuesOf_respelled libraryOnce givenOnce old new named respelled
  have kept : valuesOf (Header.override (setAll library given) call.fields) own.1 =
      [own.2, field.2] := by
    rw [Header.valuesOf_eq, Header.fieldsOf_override, unnamed, if_neg (by decide)]
    exact both
  have there : has (Header.override (setAll library given) call.fields) own.1 = true := by
    rw [← Bool.not_eq_false, ← Header.valuesOf_eq_nil, kept]
    exact List.cons_ne_nil _ _
  rw [withCredentials_fields, ofCall_fields made, Header.valuesOf_eq, Header.fieldsOf_override,
    unsigned, if_neg (by decide)]
  exact (withContentType_there request.body there).trans kept

end Request

namespace Session

section Calls
variable [Platform] {settings : Settings} {session : Session} {operation : Operation}
  {exchange : Exchange} {elapsed : Float} {runtimeVersion base : String} {token : Option String}
  {given : Fields} {timeout : Option Number} {call : Call} {sent : Sent}

-- Names are compared in any letter case throughout, but for the step from the library's own fields
-- to those given for the connection: there a field in another spelling does not replace anything.
theorem sent_carries_iff
    (made : Connection.new settings runtimeVersion base token given timeout =
      .ok session.connection)
    (bare : ∀ url, Url.parse base.toList = .ok url → url.userInfo = [])
    (givenOnce : Distinct given) (history : List Action) (called : operation.call = .ok call)
    (callOnce : Distinct call.fields)
    (member : sent ∈ ((session.after settings history).perform operation exchange elapsed).sent) :
    ((∀ name, Carries sent.request.fields (sent.request.layers call given
        (Connection.libraryFields runtimeVersion token)) name) ↔
      ∀ own ∈ Connection.libraryFields runtimeVersion token, ∀ field ∈ given,
        sameName field.1 own.1 = true → field.1 = own.1 ∨ has call.fields own.1 = true ∨
          has (Request.credentialFields sent.request.url) own.1 = true) ∧
      (Request.IsBare call.path → Request.credentialFields sent.request.url = []) := by
  obtain ⟨_, request, again, prepared, sentAs⟩ := perform_sent member
  rw [called] at again
  cases again
  have kept : session.connection.Kept (session.after settings history).connection :=
    after_kept history
  rw [kept.base, kept.fields, Connection.new_fields made, Connection.ownFields_layers] at prepared
  have libraryOnce := Connection.libraryFields_distinct runtimeVersion token
  rw [sentAs, Request.withCredentials_layers, Request.withCredentials_url]
  refine ⟨⟨?_, ?_⟩, ?_⟩
  · intro once own old field new named
    by_contra clash
    rw [not_or, not_or, Bool.not_eq_true, Bool.not_eq_true] at clash
    obtain ⟨respelled, unnamed, unsigned⟩ := clash
    have two := Request.ofCall_respelled prepared libraryOnce givenOnce old new named respelled
      unsigned unnamed
    have one := Header.carries_length (once own.1)
    rw [two] at one
    contradiction
  · intro spelled name
    refine Request.ofCall_carries prepared libraryOnce givenOnce callOnce ?_
    intro unsigned unnamed own old field new oldNamed newNamed
    have named : sameName field.1 own.1 = true :=
      (Header.sameName_congr oldNamed field.1).trans newNamed
    rcases spelled own old field new named with alike | inCall | inAddress
    · exact alike
    · rw [Header.has_congr oldNamed, unnamed] at inCall
      contradiction
    · rw [Header.has_congr oldNamed, unsigned] at inAddress
      contradiction
  · intro relative
    have anonymous := Connection.new_anonymous bare made
    exact Request.credentialFields_anonymous (Request.ofCall_anonymous anonymous relative prepared)

end Calls

section Example

open scoped TenantApi.Stock

def sampleBase : String := "https://tenant.auth0.com/"

def sampleCall (fields : Fields) : Call := ⟨"GET", "/x", none, .none, fields⟩

def sampleValues (given fields : Fields) (name : String) : List (List String) :=
  match Connection.new .standard "3.11.0" sampleBase (some "tok") given none with
  | .error _ => []
  | .ok connection =>
      ((ofConnection connection).perform (.request (sampleCall fields))
        (.broken "ConnectError" "") 0).sent.map fun sent => valuesOf sent.request.fields name

theorem sample_sent {given fields : Fields} {name : String} {values : List String}
    (listed : values ∈ sampleValues given fields name) :
    ∃ (session : Session) (sent : Sent),
      Connection.new .standard "3.11.0" sampleBase (some "tok") given none =
        .ok session.connection ∧
      sent ∈ (session.perform (.request (sampleCall fields)) (.broken "ConnectError" "") 0).sent ∧
      valuesOf sent.request.fields name = values := by
  simp only [sampleValues] at listed
  split at listed
  case h_1 => contradiction
  case h_2 connection made =>
    obtain ⟨sent, member, same⟩ := List.mem_map.mp listed
    exact ⟨ofConnection connection, sent, made, member, same⟩

theorem sample_bare (url : Url) (read : Url.parse sampleBase.toList = .ok url) :
    url.userInfo = [] := by
  have known : (Url.parse sampleBase.toList).map Url.userInfo = .ok [] := by decide +kernel
  rw [read] at known
  exact Except.ok.inj known

theorem sent_carries_sample :
    let given := [("Authorization", "Basic abc"), ("X-Trace", "1")]
    let call := sampleCall [("x-trace", "2")]
    ∃ (session : Session) (sent : Sent),
      Connection.new .standard "3.11.0" sampleBase (some "tok") given none =
        .ok session.connection ∧
      Distinct given ∧ Distinct call.fields ∧
      sent ∈ ((session.after .standard []).perform (.request call)
        (.broken "ConnectError" "") 0).sent ∧
      ∀ name, Carries sent.request.fields (sent.request.layers call given
        (Connection.libraryFields "3.11.0" (some "tok"))) name := by
  intro given call
  have givenOnce : Distinct given := by
    have apart : sameName "Authorization" "X-Trace" = false := by decide
    simp [given, Distinct, apart]
  have callOnce : Distinct call.fields := List.pairwise_singleton ..
  have listed : ["2"] ∈ sampleValues given [("x-trace", "2")] "X-Trace" := by decide +kernel
  have alike : ∀ own ∈ Connection.libraryFields "3.11.0" (some "tok"), ∀ field ∈ given,
      sameName field.1 own.1 = true → field.1 = own.1 := by decide +kernel
  obtain ⟨session, sent, made, member, _⟩ := sample_sent listed
  have exact := sent_carries_iff made sample_bare givenOnce [] rfl callOnce member
  refine ⟨session, sent, made, givenOnce, callOnce, member, exact.1.mpr ?_⟩
  intro own old field new named
  exact .inl (alike own old field new named)

-- The caller's authorization is spelled in small letters, and both authorizations are sent.
theorem respelled_authorization_doubled :
    let given := [("authorization", "Basic abc")]
    ∃ (session : Session) (sent : Sent),
      Connection.new .standard "3.11.0" sampleBase (some "tok") given none =
        .ok session.connection ∧
      (∀ url, Url.parse sampleBase.toList = .ok url → url.userInfo = []) ∧ Distinct given ∧
      sent ∈ (session.perform (.request (sampleCall [])) (.broken "ConnectError" "") 0).sent ∧
      valuesOf sent.request.fields "Authorization" = ["Bearer tok", "Basic abc"] ∧
      ¬Carries sent.request.fields (sent.request.layers (sampleCall []) given
        (Connection.libraryFields "3.11.0" (some "tok"))) "Authorization" := by
  intro given
  have listed : ["Bearer tok", "Basic abc"] ∈ sampleValues given [] "Authorization" := by
    decide +kernel
  obtain ⟨session, sent, made, member, both⟩ := sample_sent listed
  have givenOnce : Distinct given := List.pairwise_singleton ..
  refine ⟨session, sent, made, sample_bare, givenOnce, member, both, fun carried => ?_⟩
  have one := Header.carries_length carried
  rw [both] at one
  contradiction

end Example

end Session

end TenantApi
