import TenantApi.Platform.Stock
import TenantApi.Proofs.HostAddress
import TenantApi.Proofs.TelemetryHeader
import TenantApi.Proofs.TokenWindow

/-!
The issuer of a tenant's tokens. It is not kept but made again from the base address of a client,
which has been read and put together on the way. For a host written as a domain in any of the usual
ways this comes to the same text, so a client tells the tokens of its host from those of all others.
-/

namespace TenantApi

open Fallible (map_ok mapError_ok)

namespace Connection

theorem ownFields_ascii (runtimeVersion : String) :
    Header.requireAscii (ownFields runtimeVersion none []) = .ok () := by
  have name : Text.requireAscii Telemetry.headerName = .ok () := by decide
  simp only [ownFields, List.foldl_nil, Header.requireAscii, name,
    Telemetry.headerValue_accepted runtimeVersion]

theorem new_host [Platform] {host : String} (name : Tenant.IsHostName host) (settings : Settings)
    (runtimeVersion : String) (timeout : Option Number) :
    new settings runtimeVersion ("https://" ++ host) none [] timeout =
      if host.length ≤ 65528 then
        .ok ⟨Url.ofHost host.toList, ownFields runtimeVersion none [],
          timeout.getD settings.timeout, none, false⟩
      else .error (.url .tooLong) := by
  rw [new, Url.base_host name]
  simp only [ownFields_ascii]
  split <;> rfl

end Connection

namespace IdToken

def logged : Except Failure Members → List Log.Event
  | .ok _ => []
  | .error failure => failure.logged?.toList.map .tokenRejected

section Issuers
variable {expected other : Expected} {token : String} {claims others : Members}

-- A secret decides whether a token is verified, but has no part in what it says.
theorem verified_unique {secret another : String} {token : List Char}
    (read : verified secret token = .ok claims) (again : verified another token = .ok others) :
    claims = others := by
  have ends := verified_ends secret token
  have endsAgain := verified_ends another token
  rw [read] at ends
  rw [again] at endsAgain
  cases ends with
  | claims admitted _ _ object =>
      cases endsAgain with
      | claims admittedAgain _ _ objectAgain =>
          have same := admitted.taken.symm.trans admittedAgain.taken
          cases same
          have content := object.symm.trans objectAgain
          cases content
          rfl

theorem decode_issuer (accepted : decode token expected = .ok claims) :
    claims.lookup (.plain "iss") = some (.string expected.issuer) := by
  obtain ⟨_, _, checked, _⟩ := decode_iff.mp accepted
  exact issuer_iff.mp (claims_iff.mp checked).2.2.2.2.1

-- No other secret, client, leeway or time makes up for the issuer.
theorem decode_one_issuer (accepted : decode token expected = .ok claims)
    (again : decode token other = .ok others) : expected.issuer = other.issuer := by
  obtain ⟨_, read, _⟩ := decode_iff.mp accepted
  obtain ⟨_, readAgain, _⟩ := decode_iff.mp again
  have issuer := decode_issuer accepted
  rw [verified_unique read readAgain, decode_issuer again] at issuer
  simpa using issuer.symm

theorem decode_other_issuer {issuer : String} (accepted : decode token expected = .ok claims)
    (apart : expected.issuer ≠ issuer) :
    decode token { expected with issuer := issuer } = .error (.refused .issuer) := by
  obtain ⟨⟨noToken, noSecret, noClient⟩, read, checked, combined⟩ := decode_iff.mp accepted
  obtain ⟨present, issued, begun, unexpired, named, _⟩ := claims_iff.mp checked
  have foreign : checkIssuer { expected with issuer := issuer } claims = .error .issuer := by
    rw [checkIssuer, issuer_iff.mp named, if_neg]
    simpa using apart
  have refused : checkClaims { expected with issuer := issuer } claims = .error .issuer := by
    have issuedAgain : checkIssuedAt { expected with issuer := issuer } claims = .ok () := issued
    have begunAgain : checkNotBefore { expected with issuer := issuer } claims = .ok () := begun
    have unexpiredAgain : checkExpiration { expected with issuer := issuer } claims = .ok () :=
      unexpired
    simp only [checkClaims, present, issuedAgain, begunAgain, unexpiredAgain, foreign, bind,
      Except.bind]
  have combinedAgain : ({ expected with issuer := issuer } : Expected).clock.combines
      expected.leeway = true := combined
  simp only [decode, noToken, noSecret, noClient, ↓reduceIte, read, refused, combinedAgain,
    Bool.not_true, Bool.and_false, Bool.false_eq_true]

end Issuers

end IdToken

namespace Session

section Issuers
variable [Platform]

/-- A client for a host: made from a domain that is the host, whatever was done through it since. -/
def Serves (client : Session) (host : String) : Prop :=
  ∃ settings runtimeVersion domain timeout made current history,
    Tenant.Writes (Settings.orSetting domain settings.domain) host ∧
      authentication settings runtimeVersion domain timeout = .ok made ∧
      client = made.after current history

structure Decoded (client : Session) (token : String) (expected : IdToken.Expected) (turn : Turn) :
    Prop where
  result : turn.result =
    ((IdToken.decode token expected).map .claims).mapError (.token expected)
  log : turn.log.map Entry.event = IdToken.logged (IdToken.decode token expected)
  sent : turn.sent = []
  session : turn.session = client

variable {settings : Settings} {domain : Option String} {host : String} {client : Session}

theorem authentication_host (name : Tenant.IsHostName host)
    (writes : Tenant.Writes (Settings.orSetting domain settings.domain) host)
    (runtimeVersion : String) (timeout : Option Number) :
    authentication settings runtimeVersion domain timeout =
      if host.length ≤ 65528 then
        .ok ⟨⟨Url.ofHost host.toList, Connection.ownFields runtimeVersion none [],
          timeout.getD settings.timeout, none, false⟩, .idle, .authentication⟩
      else .error (.request (.url .tooLong)) := by
  rw [authentication, Tenant.authenticationBase_host name writes]
  simp only [Except.mapError, bind, Except.bind, Connection.new_host name]
  by_cases short : host.length ≤ 65528
  · simp only [if_pos short]
    rfl
  · simp only [if_neg short]

theorem Serves.base (name : Tenant.IsHostName host) (serves : client.Serves host) :
    client.connection.base = Url.ofHost host.toList := by
  obtain ⟨settings, runtimeVersion, domain, timeout, made, current, history, writes, new, rfl⟩ :=
    serves
  rw [authentication_host name writes] at new
  split at new
  case isFalse => contradiction
  case isTrue =>
    cases new
    exact after_base history

theorem Serves.issuer (name : Tenant.IsHostName host) (serves : client.Serves host) :
    client.issuer = "https://" ++ host ++ "/" := by
  have kept : Text.trimEnd (· = '/') ("https://" ++ host).toList = ("https://" ++ host).toList := by
    refine Text.trimEnd_iff.mpr ⟨[], by simp, by simp, fun c last => ?_⟩
    rw [String.toList_append, List.getLast?_append_of_ne_nil _ name.ne_nil] at last
    exact decide_eq_false ((name.chars c (List.mem_of_getLast? last)).ne (by decide))
  rw [Session.issuer, serves.base name, Url.chars_host name, kept, String.ofList_append,
    String.ofList_toList]

omit [Platform] in
theorem decodeIdToken_decoded (settings : Settings) (client : Session) (token : String)
    (clientId clientSecret : Option String) (leeway now : Number) :
    Decoded client token ⟨Settings.orSetting clientSecret settings.clientSecret,
      Settings.orSetting clientId settings.clientId, client.issuer, leeway, now⟩
      (client.decodeIdToken settings token clientId clientSecret leeway now) := by
  simp only [decodeIdToken]
  split
  case h_1 claims accepted =>
    exact ⟨by rw [accepted]; rfl, by rw [accepted]; rfl, rfl, rfl⟩
  case h_2 failure failed =>
    refine ⟨by rw [failed]; rfl, ?_, rfl, rfl⟩
    rw [failed, IdToken.logged, List.map_map]
    rfl

/-- What a client for a host expects of a token: credentials that are not given come from the
settings, and the issuer is the host. -/
def expected (settings : Settings) (host : String) (clientId clientSecret : Option String)
    (leeway now : Number) : IdToken.Expected :=
  ⟨Settings.orSetting clientSecret settings.clientSecret,
    Settings.orSetting clientId settings.clientId, "https://" ++ host ++ "/", leeway, now⟩

theorem Serves.decoded (name : Tenant.IsHostName host) (serves : client.Serves host)
    (settings : Settings) (token : String) (clientId clientSecret : Option String)
    (leeway now : Number) :
    Decoded client token (expected settings host clientId clientSecret leeway now)
      (client.decodeIdToken settings token clientId clientSecret leeway now) := by
  rw [expected, ← serves.issuer name]
  exact decodeIdToken_decoded settings client token clientId clientSecret leeway now

omit [Platform] in
theorem Decoded.accepted_iff {token : String} {wanted : IdToken.Expected} {turn : Turn}
    {answer : Answer} (decoded : Decoded client token wanted turn) :
    turn.result = .ok answer ↔
      ∃ claims, IdToken.decode token wanted = .ok claims ∧ Answer.claims claims = answer := by
  rw [decoded.result, mapError_ok, map_ok]

omit [Platform] in
theorem hosts_apart {other : String} (apart : other ≠ host) :
    "https://" ++ host ++ "/" ≠ "https://" ++ other ++ "/" := by
  intro same
  refine apart (String.ext ?_)
  simpa using (congrArg String.toList same).symm

/-- A client is made for every host, unless its address is too long for one, and expects its tokens
to be issued by that host, however the host was written and whatever was done in between. A token is
decoded as it is against this issuer, and nothing else happens. What a client for one host accepts,
a client for any other refuses, and for the issuer alone if all else is the same. -/
theorem tenant_issuer (name : Tenant.IsHostName host) :
    (∀ settings runtimeVersion domain timeout,
      Tenant.Writes (Settings.orSetting domain settings.domain) host →
        ((∃ made, authentication settings runtimeVersion domain timeout = .ok made) ↔
          host.length ≤ 65528)) ∧
    ∀ client, Serves client host →
      client.issuer = "https://" ++ host ++ "/" ∧
      ∀ settings token clientId clientSecret leeway now,
        let turn := client.decodeIdToken settings token clientId clientSecret leeway now
        Decoded client token (expected settings host clientId clientSecret leeway now) turn ∧
        ∀ answer, turn.result = .ok answer →
          ∀ other rival, Tenant.IsHostName other → other ≠ host → Serves rival other →
            let refusing := expected settings other clientId clientSecret leeway now
            (rival.decodeIdToken settings token clientId clientSecret leeway now).result =
              .error (.token refusing (.refused .issuer)) ∧
            ∀ settings clientId clientSecret leeway now,
              ¬∃ accepted, (rival.decodeIdToken settings token clientId clientSecret leeway
                now).result = .ok accepted := by
  constructor
  · intro settings runtimeVersion domain timeout writes
    rw [authentication_host name writes]
    split <;> simp [*]
  intro client serves
  refine ⟨serves.issuer name, fun settings token clientId clientSecret leeway now => ?_⟩
  have decoded := serves.decoded name settings token clientId clientSecret leeway now
  refine ⟨decoded, fun answer done other rival named apart rivals => ?_⟩
  obtain ⟨claims, accepted, _⟩ := decoded.accepted_iff.mp done
  constructor
  · have refused := IdToken.decode_other_issuer accepted (hosts_apart apart)
    rw [(rivals.decoded named settings token clientId clientSecret leeway now).result]
    simp only [expected] at refused ⊢
    rw [refused]
    rfl
  · rintro settings clientId clientSecret leeway now ⟨answer, again⟩
    have rivalled := rivals.decoded named settings token clientId clientSecret leeway now
    obtain ⟨others, acceptedAgain, _⟩ := rivalled.accepted_iff.mp again
    exact hosts_apart apart (IdToken.decode_one_issuer accepted acceptedAgain)

end Issuers

section Example
open scoped TenantApi.Stock

def sampleToken : String :=
  IdToken.plainToken "secret"
    (Utf8.encode (IdToken.sampleText "[\"other\",\"client\"]" "1700000000" "1700003600"))

def sampleAccepted : Members :=
  IdToken.sampleClaims (.array [.string "other", .string "client"]) IdToken.sampleTimes

theorem sample_accepted :
    IdToken.decode sampleToken (expected Settings.standard "tenant" (some "client") (some "secret")
      (.whole 60) (.whole 1700000100)) = .ok sampleAccepted := by
  have holds := IdToken.Holds.text (Json.ofChars_iff.mp (by decide +kernel :
    Json.ofChars (IdToken.sampleText "[\"other\",\"client\"]" "1700000000" "1700003600") =
      .ok (.object sampleAccepted)))
  have issued : IdToken.Issued "client" "https://tenant/" IdToken.sampleTimes sampleAccepted :=
    IdToken.sample_issued (.inr ⟨["other", "client"], rfl, by decide⟩) rfl
  exact IdToken.decode_iff.mpr ⟨⟨IdToken.plainToken_given _ _, by decide, by decide⟩,
    IdToken.plainToken_verified IdToken.sample_shared holds,
    issued.check_within (by decide) (by decide) (by decide +kernel) (by decide +kernel),
    by decide +kernel⟩

theorem tenant_issuer_sample :
    ∃ client rival,
      authentication Settings.standard "3.11.0" (some "\thttps://tenant// ") none = .ok client ∧
      authentication Settings.standard "3.11.0" (some "other-tenant") none = .ok rival ∧
      client.issuer = "https://tenant/" ∧
      (client.decodeIdToken Settings.standard sampleToken (some "client") (some "secret")
        (.whole 60) (.whole 1700000100)).result = .ok (.claims sampleAccepted) ∧
      (rival.decodeIdToken Settings.standard sampleToken (some "client") (some "secret") (.whole 60)
        (.whole 1700000100)).result =
          .error (.token (expected Settings.standard "other-tenant" (some "client") (some "secret")
            (.whole 60) (.whole 1700000100)) (.refused .issuer)) := by
  have name : Tenant.IsHostName "tenant" :=
    ⟨⟨'t', "enant".toList, rfl, by decide, by decide⟩, by simp [Tenant.IsHostChar]⟩
  have otherName : Tenant.IsHostName "other-tenant" :=
    ⟨⟨'o', "ther-tenant".toList, rfl, by decide, by decide⟩, by simp [Tenant.IsHostChar]⟩
  have writes : Tenant.Writes
      (Settings.orSetting (some "\thttps://tenant// ") Settings.standard.domain) "tenant" := by
    rw [Settings.orSetting_some (by decide)]
    exact ⟨['\t'], "https://".toList, ['/', '/'], [' '], rfl, by simp,
      List.forall_mem_singleton.mpr (by decide), by simp, List.forall_mem_singleton.mpr (by decide)⟩
  have otherWrites : Tenant.Writes
      (Settings.orSetting (some "other-tenant") Settings.standard.domain) "other-tenant" := by
    rw [Settings.orSetting_some (by decide)]
    exact ⟨[], [], [], [], rfl, by simp, by simp, by simp, by simp⟩
  obtain ⟨client, made⟩ :=
    ((tenant_issuer name).1 Settings.standard "3.11.0" _ none writes).mpr (by decide)
  obtain ⟨rival, otherMade⟩ :=
    ((tenant_issuer otherName).1 Settings.standard "3.11.0" _ none otherWrites).mpr (by decide)
  obtain ⟨issuer, decodes⟩ := (tenant_issuer name).2 client
    ⟨_, _, _, _, client, Settings.standard, [], writes, made, rfl⟩
  obtain ⟨decoded, refuses⟩ := decodes Settings.standard sampleToken (some "client") (some "secret")
    (.whole 60) (.whole 1700000100)
  have done : (client.decodeIdToken Settings.standard sampleToken (some "client") (some "secret")
      (.whole 60) (.whole 1700000100)).result = .ok (.claims sampleAccepted) := by
    rw [decoded.accepted_iff]
    exact ⟨_, sample_accepted, rfl⟩
  obtain ⟨refused, _⟩ := refuses _ done "other-tenant" rival otherName (by decide)
    ⟨_, _, _, _, rival, Settings.standard, [], otherWrites, otherMade, rfl⟩
  exact ⟨client, rival, made, otherMade, issuer, done, refused⟩

end Example

end Session

end TenantApi
