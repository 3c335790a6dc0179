import TenantApi.Proofs.JsonBytes
import TenantApi.Proofs.TokenBlindness
import TenantApi.Proofs.WholeNumbers

/-!
When a token is accepted. A signed token whose claims are of the expected kinds, for the expected
client and from the expected issuer, is accepted from the later of its two starts, less the leeway,
until just before its end plus the leeway. Outside of that interval it is too early, or else it has
expired. Its claims come back as they were written, those that nothing is known of included. The
clock is a float: the interval is exact as long as the leeway does not take it beyond `2 ^ 53`, from
there on its ends are rounded, and a leeway that is beyond all floats is an error of its own.
-/

namespace TenantApi.IdToken

def plainHeader : Octets := Utf8.encode "\x7b\"alg\":\"HS256\",\"typ\":\"JWT\"\x7d".toList

def plainToken (secret : String) (payload : Octets) : String :=
  String.ofList (compact secret plainHeader payload)

/-- Bytes of a payload with an object in them: the text of one, or bytes that are read as one, where
a byte order mark and the wider encodings are allowed for. -/
inductive Holds : Octets → Members → Prop where
  | text {text : List Char} {members : Members}
      (read : Json.IsText Json.noHalves text (.object members)) :
      Holds (Utf8.encode text) members
  | bytes {bytes : Octets} {members : Members} (read : Json.ofBytes bytes = .ok (.object members)) :
      Holds bytes members

structure Times where
  issuedAt : Int
  notBefore : Option Int
  expires : Int

namespace Times

def start (times : Times) : Int := times.notBefore.elim times.issuedAt (max times.issuedAt)

end Times

structure Issued (clientId issuer : String) (times : Times) (claims : Members) : Prop where
  issuer : claims.lookup (.plain "iss") = some (.string issuer)
  audience : ∃ audience, claims.lookup (.plain "aud") = some audience ∧ Addresses audience clientId
  subject : ∃ subject, claims.lookup (.plain "sub") = some (.string subject)
  tokenId : ∀ value, claims.lookup (.plain "jti") = some value → ∃ name, value = .string name
  issuedAt : claims.lookup (.plain "iat") = some (.int times.issuedAt)
  expires : claims.lookup (.plain "exp") = some (.int times.expires)
  notBefore : claims.lookup (.plain "nbf") = times.notBefore.map .int

def reportAt (token secret clientId issuer : String) (leeway now : Int) : Except Report Members :=
  report token ⟨secret, clientId, issuer, .whole leeway, .whole now⟩

/-- What the clock shows with the leeway added. -/
def ahead (leeway now : Int) : Number := (Number.broken (Decimal.ofInt now)).add (.whole leeway)

def behind (leeway now : Int) : Number := (Number.broken (Decimal.ofInt now)).sub (.whole leeway)

def Report.tooEarly : Report := ⟨.refused .notYetValid, "ID token is not valid yet", []⟩

def Report.tooLate : Report := ⟨.refused .expired, "ID token has expired", []⟩

def Report.unreachable : Report := ⟨.leewayTooLarge, "int too large to convert to float", []⟩

section Payload
variable {payload : Octets} {claims : Members}

theorem Holds.read (holds : Holds payload claims) :
    Json.ofBytes payload = .ok (.object claims) := by
  cases holds with
  | text read => exact Json.ofBytes_object read
  | bytes read => exact read

theorem plainHeader_read :
    Json.ofBytes plainHeader =
      .ok (.object [("alg", .string "HS256"), ("typ", .string "JWT")]) := by
  decide +kernel

theorem plainToken_given (secret : String) (payload : Octets) : plainToken secret payload ≠ "" := by
  intro empty
  have length := congrArg (fun token => token.toList.length) empty
  simp [plainToken, compact] at length

theorem plainToken_verified {secret : String} (shared : ¬KeyText secret.toList)
    (holds : Holds payload claims) :
    verified secret (plainToken secret payload).toList = .ok claims := by
  obtain ⟨segments, authentic⟩ := compact_authentic secret plainHeader_read (by decide) holds.read
  have text : (plainToken secret payload).toList = compact secret plainHeader payload :=
    String.toList_ofList
  rw [text]
  refine authentic_verified authentic ⟨by decide, by decide, ?_⟩
  rwa [← Bool.not_eq_true, asymmetric_iff]

end Payload

section Clocks
variable {leeway now : Int}

theorem clock_finite (within : now.natAbs ≤ 2 ^ 53) :
    Decimal.isFinite (Decimal.ofInt now) = true := by
  obtain ⟨negative, significand, exponent, parts, _⟩ := Decimal.ofInt_whole within
  simp [Decimal.isFinite, parts]

theorem ahead_position (within : now.natAbs ≤ 2 ^ 53) (leeway : Int) :
    ∃ position, (ahead leeway now).position? = some position :=
  Number.add_position (clock_finite within) (by simp [Number.position?])

theorem ahead_below (within : now.natAbs + leeway.natAbs ≤ 2 ^ 53) (n : Int) :
    (ahead leeway now).below n = true ↔ now + leeway < n := by
  rw [ahead, Number.below_iff (Number.moved_positions within).1, Position.ofInt_lt_ofInt]

theorem behind_atLeast (within : now.natAbs + leeway.natAbs ≤ 2 ^ 53) (n : Int) :
    (behind leeway now).atLeast n = true ↔ n ≤ now - leeway := by
  rw [behind, Number.atLeast_iff (Number.moved_positions within).2, Position.ofInt_le_ofInt]

-- A bound that has a position is below the later start iff it is below one of the two.
theorem Times.start_below (times : Times) {bound : Number} {position : Position}
    (known : bound.position? = some position) :
    bound.below times.start = true ↔ bound.below times.issuedAt = true ∨
      ∃ time ∈ times.notBefore, bound.below time = true := by
  simp only [Number.below_iff known]
  cases found : times.notBefore with
  | none => simp [start, found]
  | some time =>
      have later : Position.ofInt (max times.issuedAt time) =
          max (Position.ofInt times.issuedAt) (Position.ofInt time) := by
        simp [Position.ofInt]
      simp [start, found, later]

end Clocks

section Checks
variable {secret clientId issuer : String} {times : Times} {claims : Members}

theorem Issued.complete (issued : Issued clientId issuer times claims) :
    missingClaim? claims = none := by
  obtain ⟨audience, addressed, addresses⟩ := issued.audience
  obtain ⟨subject, named⟩ := issued.subject
  have audienceGiven : audience ≠ .null := by
    rcases addresses with rfl | ⟨names, rfl, _⟩ <;> simp
  rw [missing_none_iff]
  intro name required
  simp only [requiredClaims, List.mem_cons, List.not_mem_nil, or_false] at required
  rcases required with rfl | rfl | rfl | rfl | rfl
  · exact ⟨_, issued.expires, by simp⟩
  · exact ⟨_, issued.issuedAt, by simp⟩
  · exact ⟨_, issued.issuer, by simp⟩
  · exact ⟨_, addressed, audienceGiven⟩
  · exact ⟨_, named, by simp⟩

theorem Issued.reaches (issued : Issued clientId issuer times claims) :
    reachesClock claims = true := by
  simp [reachesClock, issued.complete, issued.issuedAt, timeOf?]

theorem Issued.issuedAt_check (issued : Issued clientId issuer times claims) (secret : String)
    (leeway now : Int) :
    checkIssuedAt ⟨secret, clientId, issuer, .whole leeway, .whole now⟩ claims =
      if (ahead leeway now).below times.issuedAt then .error .notYetValid else .ok () := by
  simp only [checkIssuedAt, issued.issuedAt, timeOf?]
  rfl

theorem Issued.notBefore_check (issued : Issued clientId issuer times claims) (secret : String)
    (leeway now : Int) :
    checkNotBefore ⟨secret, clientId, issuer, .whole leeway, .whole now⟩ claims =
      if ∃ time ∈ times.notBefore, (ahead leeway now).below time then .error .notYetValid
      else .ok () := by
  cases found : times.notBefore with
  | none => simp [checkNotBefore, issued.notBefore, found]
  | some time =>
      simp only [checkNotBefore, issued.notBefore, found, Option.map_some, timeOf?,
        Option.mem_some_iff, exists_eq_left']
      rfl

theorem Issued.expiration_check (issued : Issued clientId issuer times claims) (secret : String)
    (leeway now : Int) :
    checkExpiration ⟨secret, clientId, issuer, .whole leeway, .whole now⟩ claims =
      if (behind leeway now).atLeast times.expires then .error .expired else .ok () := by
  simp only [checkExpiration, issued.expires, timeOf?]
  rfl

variable {leeway now : Int}

-- The times are checked before anything else about the claims, and the starts before the end.
theorem Issued.check_early (issued : Issued clientId issuer times claims)
    (within : now.natAbs ≤ 2 ^ 53) (early : (ahead leeway now).below times.start = true) :
    checkClaims ⟨secret, clientId, issuer, .whole leeway, .whole now⟩ claims =
      .error .notYetValid := by
  obtain ⟨position, known⟩ := ahead_position within leeway
  have issuedAt := issued.issuedAt_check secret leeway now
  by_cases unissued : (ahead leeway now).below times.issuedAt = true
  · rw [if_pos unissued] at issuedAt
    simp [checkClaims, issued.complete, issuedAt, bind, Except.bind]
  · have unbegun := ((times.start_below known).mp early).resolve_left unissued
    have notBefore := issued.notBefore_check secret leeway now
    rw [if_neg unissued] at issuedAt
    rw [if_pos unbegun] at notBefore
    simp [checkClaims, issued.complete, issuedAt, notBefore, bind, Except.bind]

theorem Issued.starts_check (issued : Issued clientId issuer times claims) (secret : String)
    (within : now.natAbs ≤ 2 ^ 53) (started : (ahead leeway now).below times.start ≠ true) :
    checkIssuedAt ⟨secret, clientId, issuer, .whole leeway, .whole now⟩ claims = .ok () ∧
      checkNotBefore ⟨secret, clientId, issuer, .whole leeway, .whole now⟩ claims = .ok () := by
  obtain ⟨position, known⟩ := ahead_position within leeway
  rw [ne_eq, times.start_below known, not_or] at started
  constructor
  · rw [issued.issuedAt_check, if_neg started.1]
  · rw [issued.notBefore_check, if_neg started.2]

theorem Issued.check_late (issued : Issued clientId issuer times claims)
    (within : now.natAbs ≤ 2 ^ 53) (started : (ahead leeway now).below times.start ≠ true)
    (late : (behind leeway now).atLeast times.expires = true) :
    checkClaims ⟨secret, clientId, issuer, .whole leeway, .whole now⟩ claims =
      .error .expired := by
  obtain ⟨issuedAt, notBefore⟩ := issued.starts_check secret within started
  have expired := issued.expiration_check secret leeway now
  rw [if_pos late] at expired
  simp [checkClaims, issued.complete, issuedAt, notBefore, expired, bind, Except.bind]

theorem Issued.check_within (issued : Issued clientId issuer times claims) (client : clientId ≠ "")
    (within : now.natAbs ≤ 2 ^ 53) (started : (ahead leeway now).below times.start ≠ true)
    (unexpired : (behind leeway now).atLeast times.expires ≠ true) :
    checkClaims ⟨secret, clientId, issuer, .whole leeway, .whole now⟩ claims = .ok () := by
  obtain ⟨issuedAt, notBefore⟩ := issued.starts_check secret within started
  obtain ⟨audience, addressed, addresses⟩ := issued.audience
  obtain ⟨subject, named⟩ := issued.subject
  refine claims_iff.mpr ⟨issued.complete, issuedAt, notBefore, ?_, issuer_iff.mpr issued.issuer,
    (audience_iff addressed client).mpr addresses, ?_, ?_⟩
  · rw [issued.expiration_check, if_neg unexpired]
  · simp [checkSubject, named, isText]
  · cases found : claims.lookup (.plain "jti") with
    | none => simp [checkTokenId, found]
    | some value =>
        obtain ⟨name, rfl⟩ := issued.tokenId value found
        simp [checkTokenId, found, isText]

end Checks

section Window
variable {secret clientId issuer : String} {payload : Octets} {times : Times} {claims : Members}
  {leeway now : Int}

theorem reportAt_beyond (present : secret ≠ "") (shared : ¬KeyText secret.toList)
    (client : clientId ≠ "") (holds : Holds payload claims)
    (issued : Issued clientId issuer times claims) (now : Int)
    (beyond : Number.floatBound ≤ leeway.natAbs) :
    reportAt (plainToken secret payload) secret clientId issuer leeway now =
      .error .unreachable := by
  have read := plainToken_verified shared holds
  have given := plainToken_given secret payload
  simp only [reportAt, report, decode, given, present, client, ↓reduceIte, read, issued.reaches,
    Expected.clock, Number.combines, Number.isWithinFloats, not_lt.mpr beyond]
  rfl

-- One case for each side of the interval, and one for the interval itself.
theorem reportAt_rounded (present : secret ≠ "") (shared : ¬KeyText secret.toList)
    (client : clientId ≠ "") (holds : Holds payload claims)
    (issued : Issued clientId issuer times claims) (within : now.natAbs ≤ 2 ^ 53)
    (reachable : leeway.natAbs < Number.floatBound) :
    reportAt (plainToken secret payload) secret clientId issuer leeway now =
      if (ahead leeway now).below times.start then .error .tooEarly
      else if (behind leeway now).atLeast times.expires then .error .tooLate
      else .ok claims := by
  have read := plainToken_verified shared holds
  have given := plainToken_given secret payload
  simp only [reportAt, report, decode, given, present, client, ↓reduceIte, read, Expected.clock,
    Number.combines, Number.isWithinFloats, reachable, decide_true, Bool.and_self, Bool.not_true,
    Bool.and_false, Bool.false_eq_true]
  by_cases early : (ahead leeway now).below times.start = true
  · rw [issued.check_early within early, if_pos early]
    rfl
  · rw [if_neg early]
    by_cases late : (behind leeway now).atLeast times.expires = true
    · rw [issued.check_late within early late, if_pos late]
      rfl
    · rw [issued.check_within client within early late, if_neg late]
      rfl

theorem reportAt_exact (present : secret ≠ "") (shared : ¬KeyText secret.toList)
    (client : clientId ≠ "") (holds : Holds payload claims)
    (issued : Issued clientId issuer times claims)
    (within : now.natAbs + leeway.natAbs ≤ 2 ^ 53) :
    reportAt (plainToken secret payload) secret clientId issuer leeway now =
      if now < times.start - leeway then .error .tooEarly
      else if times.expires + leeway ≤ now then .error .tooLate
      else .ok claims := by
  have reachable : leeway.natAbs < Number.floatBound := by
    rw [floatBound_eq]
    have small : leeway.natAbs ≤ 2 ^ 53 := by omega
    exact small.trans_lt (by decide +kernel)
  rw [reportAt_rounded present shared client holds issued (by omega) reachable]
  simp only [ahead_below within, behind_atLeast within, lt_sub_iff_add_lt, le_sub_iff_add_le]

-- The start of the interval belongs to it and its end does not. Every leeway is allowed for,
-- negative ones included: they may leave nothing of the interval.
theorem report_window (present : secret ≠ "") (shared : ¬KeyText secret.toList)
    (client : clientId ≠ "") (holds : Holds payload claims)
    (issued : Issued clientId issuer times claims) :
    (∀ leeway now : Int, now.natAbs + leeway.natAbs ≤ 2 ^ 53 →
      (reportAt (plainToken secret payload) secret clientId issuer leeway now = .ok claims ↔
        now ∈ Set.Ico (times.start - leeway) (times.expires + leeway)) ∧
      (reportAt (plainToken secret payload) secret clientId issuer leeway now =
        .error .tooEarly ↔ now < times.start - leeway) ∧
      (reportAt (plainToken secret payload) secret clientId issuer leeway now =
        .error .tooLate ↔ times.start - leeway ≤ now ∧ times.expires + leeway ≤ now)) ∧
    (∀ narrow wide now : Int, narrow ≤ wide → now.natAbs + narrow.natAbs ≤ 2 ^ 53 →
      now.natAbs + wide.natAbs ≤ 2 ^ 53 →
      reportAt (plainToken secret payload) secret clientId issuer narrow now = .ok claims →
      reportAt (plainToken secret payload) secret clientId issuer wide now = .ok claims) ∧
    (∀ leeway now : Int, now.natAbs ≤ 2 ^ 53 → leeway.natAbs < Number.floatBound →
      reportAt (plainToken secret payload) secret clientId issuer leeway now =
        if (ahead leeway now).below times.start then .error .tooEarly
        else if (behind leeway now).atLeast times.expires then .error .tooLate
        else .ok claims) ∧
    (∀ leeway now : Int, Number.floatBound ≤ leeway.natAbs →
      reportAt (plainToken secret payload) secret clientId issuer leeway now =
        .error .unreachable) := by
  have apart : Report.tooEarly ≠ Report.tooLate := by decide
  have window (leeway now : Int) (within : now.natAbs + leeway.natAbs ≤ 2 ^ 53) :
      reportAt (plainToken secret payload) secret clientId issuer leeway now = .ok claims ↔
        now ∈ Set.Ico (times.start - leeway) (times.expires + leeway) := by
    rw [reportAt_exact present shared client holds issued within, Set.mem_Ico]
    split_ifs <;> simp <;> omega
  refine ⟨fun leeway now within => ⟨window leeway now within, ?_, ?_⟩, ?_, ?_, ?_⟩
  · rw [reportAt_exact present shared client holds issued within]
    split_ifs <;> simp [apart.symm] <;> omega
  · rw [reportAt_exact present shared client holds issued within]
    split_ifs <;> simp [apart] <;> omega
  · intro narrow wide now wider within still accepted
    rw [window _ _ within, Set.mem_Ico] at accepted
    rw [window _ _ still, Set.mem_Ico]
    omega
  · intro leeway now within reachable
    exact reportAt_rounded present shared client holds issued within reachable
  · intro leeway now beyond
    exact reportAt_beyond present shared client holds issued now beyond

def sampleText (audience issuedAt expires : String) : List Char :=
  ("\x7b\"iss\":\"https://tenant/\",\"sub\":\"user\",\"aud\":" ++ audience ++
    ",\"iat\":" ++ issuedAt ++ ",\"nbf\":1700000100,\"exp\":" ++ expires ++
    ",\"plan\":\x7b\"tier\":1\x7d\x7d").toList

def sampleTimes : Times := ⟨1700000000, some 1700000100, 1700003600⟩

/-- Times so far off that no float tells one second from the next. -/
def distantTimes : Times := ⟨9007200954740993, some 1700000100, 9007200954744593⟩

def sampleClaims (audience : Json) (times : Times) : Members :=
  [("iss", .string "https://tenant/"), ("sub", .string "user"), ("aud", audience),
    ("iat", .int times.issuedAt), ("nbf", .int 1700000100), ("exp", .int times.expires),
    ("plan", .object [("tier", .int 1)])]

theorem sample_issued {audience : Json} (addresses : Addresses audience clientId)
    (notBefore : times.notBefore = some 1700000100) :
    Issued clientId "https://tenant/" times (sampleClaims audience times) where
  issuer := rfl
  audience := ⟨audience, rfl, addresses⟩
  subject := ⟨"user", rfl⟩
  tokenId := by
    have absent : (sampleClaims audience times).lookup (.plain "jti") = none := rfl
    simp [absent]
  issuedAt := rfl
  expires := rfl
  notBefore := by
    rw [notBefore]
    rfl

theorem sample_shared : ¬KeyText "secret".toList := by
  rw [← asymmetric_iff]
  decide +kernel

theorem report_window_sample :
    let claims := sampleClaims (.array [.string "other", .string "client"]) sampleTimes
    let payload := Utf8.encode (sampleText "[\"other\",\"client\"]" "1700000000" "1700003600")
    ("secret" ≠ "" ∧ ¬KeyText "secret".toList ∧ "client" ≠ "" ∧ Holds payload claims ∧
        Issued "client" "https://tenant/" sampleTimes claims) ∧
      reportAt (plainToken "secret" payload) "secret" "client" "https://tenant/" 60 1700000040 =
        .ok claims ∧
      reportAt (plainToken "secret" payload) "secret" "client" "https://tenant/" 60 1700003660 =
        .error .tooLate := by
  have holds := Holds.text (Json.ofChars_iff.mp (by decide +kernel :
    Json.ofChars (sampleText "[\"other\",\"client\"]" "1700000000" "1700003600") =
      .ok (.object (sampleClaims (.array [.string "other", .string "client"]) sampleTimes))))
  have issued : Issued "client" "https://tenant/" sampleTimes
      (sampleClaims (.array [.string "other", .string "client"]) sampleTimes) :=
    sample_issued (.inr ⟨["other", "client"], rfl, by decide⟩) rfl
  have window := report_window (by decide) sample_shared (by decide) holds issued
  refine ⟨⟨by decide, sample_shared, by decide, holds, issued⟩, ?_, ?_⟩
  · exact (window.1 60 1700000040 (by decide)).1.mpr (by decide)
  · exact (window.1 60 1700003660 (by decide)).2.2.mpr (by decide)

-- A client without a name is turned away whatever the token says, also where that is its audience.
-- A leeway that no float is equal to is rounded, so that a token is early although with the leeway
-- it is not; and one beyond all floats has no sum with the clock.
theorem window_missed :
    let unnamed := Utf8.encode (sampleText "\"\"" "1700000000" "1700003600")
    let distant := Utf8.encode (sampleText "\"client\"" "9007200954740993" "9007200954744593")
    (Holds unnamed (sampleClaims (.string "") sampleTimes) ∧
      Issued "" "https://tenant/" sampleTimes (sampleClaims (.string "") sampleTimes) ∧
      1700000100 ∈ Set.Ico (sampleTimes.start - 60) (sampleTimes.expires + 60) ∧
      reportAt (plainToken "secret" unnamed) "secret" "" "https://tenant/" 60 1700000100 =
        .error ⟨.emptyClientId, "client_id must be provided (or set AUTH0_CLIENT_ID)", []⟩) ∧
    ("secret" ≠ "" ∧ ¬KeyText "secret".toList ∧
      Holds distant (sampleClaims (.string "client") distantTimes) ∧
      Issued "client" "https://tenant/" distantTimes
        (sampleClaims (.string "client") distantTimes)) ∧
    (1700000000 ∈ Set.Ico (distantTimes.start - (2 ^ 53 + 1))
        (distantTimes.expires + (2 ^ 53 + 1)) ∧
      reportAt (plainToken "secret" distant) "secret" "client" "https://tenant/" (2 ^ 53 + 1)
        1700000000 = .error .tooEarly) ∧
    (1700000000 ∈ Set.Ico (distantTimes.start - 2 ^ 1024) (distantTimes.expires + 2 ^ 1024) ∧
      reportAt (plainToken "secret" distant) "secret" "client" "https://tenant/" (2 ^ 1024)
        1700000000 = .error .unreachable) := by
  have unnamed := Holds.text (Json.ofChars_iff.mp (by decide +kernel :
    Json.ofChars (sampleText "\"\"" "1700000000" "1700003600") =
      .ok (.object (sampleClaims (.string "") sampleTimes))))
  have distant := Holds.text (Json.ofChars_iff.mp (by decide +kernel :
    Json.ofChars (sampleText "\"client\"" "9007200954740993" "9007200954744593") =
      .ok (.object (sampleClaims (.string "client") distantTimes))))
  have issued : Issued "client" "https://tenant/" distantTimes
      (sampleClaims (.string "client") distantTimes) := sample_issued (.inl rfl) rfl
  refine ⟨⟨unnamed, sample_issued (.inl rfl) rfl, by decide, ?_⟩,
    ⟨by decide, sample_shared, distant, issued⟩, ⟨by decide, ?_⟩, ⟨by decide +kernel, ?_⟩⟩
  · have given := plainToken_given "secret"
      (Utf8.encode (sampleText "\"\"" "1700000000" "1700003600"))
    simp only [reportAt, report, decode, given, ↓reduceIte]
    rfl
  · have early : (ahead (2 ^ 53 + 1) 1700000000).below distantTimes.start = true := by
      decide +kernel
    rw [reportAt_rounded (by decide) sample_shared (by decide) distant issued (by decide)
      (by decide +kernel), if_pos early]
  · exact reportAt_beyond (by decide) sample_shared (by decide) distant issued 1700000000
      (by decide +kernel)

end Window

end TenantApi.IdToken
