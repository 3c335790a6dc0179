import TenantApi.IdToken.Claims
import TenantApi.Proofs.Fallible
import TenantApi.Proofs.Number
import TenantApi.Proofs.SignedToken

/-!
What the claims of an accepted token say. Each check of the claims holds exactly when its claim is
in order; the checks in their sequence hold exactly when all of them do. Together with the form and
the signature of the token they make up everything that is relied on when a token is accepted.
-/

namespace TenantApi.IdToken

variable {expected : Expected} {claims : Members}

section Checks

theorem missing_none_iff :
    missingClaim? claims = none ↔
      ∀ name ∈ requiredClaims,
        ∃ value, claims.lookup (.plain name) = some value ∧ value ≠ .null := by
  simp only [missingClaim?, List.find?_eq_none, decide_eq_true_eq]
  constructor
  · intro present name required
    have given := present name required
    cases found : claims.lookup (.plain name) with
    | none => simp [found] at given
    | some value => exact ⟨value, rfl, by simpa [found] using given⟩
  · intro present name required
    obtain ⟨value, found, given⟩ := present name required
    simpa [found] using given

-- Every time claim is checked alike: one that is there must be a time, and not the wrong one.
theorem time_check {found : Option Json} {unreadable untimely : Refusal} {wrong : Int → Bool} :
    (match found with
      | none => .ok ()
      | some value => match timeOf? value with
        | none => .error unreadable
        | some time => if wrong time then .error untimely else .ok () : Except Refusal Unit) =
          .ok () ↔
      ∀ value, found = some value → ∃ time, timeOf? value = some time ∧ wrong time = false := by
  cases found with
  | none => simp
  | some value =>
      cases read : timeOf? value with
      | none => simp [read]
      | some time => cases late : wrong time <;> simp [read, late]

theorem issuedAt_iff :
    checkIssuedAt expected claims = .ok () ↔
      ∀ value, claims.lookup (.plain "iat") = some value →
        ∃ time, timeOf? value = some time ∧
          (expected.clock.add expected.leeway).below time = false :=
  time_check

theorem notBefore_iff :
    checkNotBefore expected claims = .ok () ↔
      ∀ value, claims.lookup (.plain "nbf") = some value →
        ∃ time, timeOf? value = some time ∧
          (expected.clock.add expected.leeway).below time = false :=
  time_check

theorem expiration_iff :
    checkExpiration expected claims = .ok () ↔
      ∀ value, claims.lookup (.plain "exp") = some value →
        ∃ time, timeOf? value = some time ∧
          (expected.clock.sub expected.leeway).atLeast time = false :=
  time_check

theorem issuer_iff :
    checkIssuer expected claims = .ok () ↔
      claims.lookup (.plain "iss") = some (.string expected.issuer) := by
  simp [checkIssuer]

/-- An audience that a client belongs to: its name alone, or names with its own among them. -/
def Addresses (audience : Json) (clientId : String) : Prop :=
  audience = .string clientId ∨
    ∃ names : List LooseText, audience = .array (names.map .string) ∧ .plain clientId ∈ names

theorem array_audiences_iff {items : List Json} {names : List LooseText} :
    audiences? (.array items) = some names ↔ items = names.map .string := by
  simp only [audiences?]
  induction items generalizing names with
  | nil => simp [eq_comm]
  | cons item rest ih =>
      simp only [List.mapM_cons, Option.pure_def, Option.bind_eq_bind, Option.bind_eq_some_iff]
      constructor
      · rintro ⟨name, first, others, tail, same⟩
        split at first
        case h_2 => contradiction
        case h_1 name =>
          simp only [Option.some.injEq] at first same
          subst first same
          rw [ih.mp tail, List.map_cons]
      · intro same
        cases names with
        | nil => contradiction
        | cons name others =>
            rw [List.map_cons, List.cons.injEq] at same
            obtain ⟨rfl, tail⟩ := same
            exact ⟨name, rfl, others, ih.mpr tail, rfl⟩

theorem audiences_iff {audience : Json} {clientId : String} :
    (∃ names, audiences? audience = some names ∧ .plain clientId ∈ names) ↔
      Addresses audience clientId := by
  cases audience with
  | string name => simp [audiences?, Addresses, eq_comm]
  | array items => simp [array_audiences_iff, Addresses]
  | _ => simp [audiences?, Addresses]

theorem addresses_truthy {audience : Json} {clientId : String} (client : clientId ≠ "")
    (addresses : Addresses audience clientId) : audience.isTruthy = true := by
  rcases addresses with rfl | ⟨names, rfl, member⟩
  · simpa [Json.isTruthy] using client
  · have some : names ≠ [] := List.ne_nil_of_mem member
    simpa [Json.isTruthy] using some

theorem audience_iff {audience : Json} (found : claims.lookup (.plain "aud") = some audience)
    (client : expected.clientId ≠ "") :
    checkAudience expected claims = .ok () ↔ Addresses audience expected.clientId := by
  simp only [checkAudience, found, Option.getD_some]
  rw [← audiences_iff]
  by_cases truthy : audience.isTruthy = true
  · cases read : audiences? audience with
    | none => simp [truthy]
    | some names => simp [truthy]
  · have unaddressed : ¬∃ names, audiences? audience = some names ∧
        .plain expected.clientId ∈ names :=
      fun named => truthy (addresses_truthy client (audiences_iff.mp named))
    simp [truthy, unaddressed]

theorem sequence_iff {first second : Except Refusal Unit} :
    (first >>= fun _ => second) = .ok () ↔ first = .ok () ∧ second = .ok () := by
  rw [Fallible.bind_ok]
  constructor
  · rintro ⟨⟨⟩, passed, next⟩
    exact ⟨passed, next⟩
  · rintro ⟨passed, next⟩
    exact ⟨(), passed, next⟩

theorem claims_iff :
    checkClaims expected claims = .ok () ↔
      missingClaim? claims = none ∧ checkIssuedAt expected claims = .ok () ∧
        checkNotBefore expected claims = .ok () ∧ checkExpiration expected claims = .ok () ∧
        checkIssuer expected claims = .ok () ∧ checkAudience expected claims = .ok () ∧
        checkSubject claims = .ok () ∧ checkTokenId claims = .ok () := by
  simp only [checkClaims]
  cases missing : missingClaim? claims with
  | some name => simp [bind, Except.bind, throw, throwThe, MonadExceptOf.throw]
  | none => simp [sequence_iff]

theorem claims_reach (checked : checkClaims expected claims = .ok ()) :
    reachesClock claims = true := by
  obtain ⟨present, issued, _⟩ := claims_iff.mp checked
  obtain ⟨value, found, _⟩ := missing_none_iff.mp present "iat" (by decide)
  obtain ⟨time, read, _⟩ := issuedAt_iff.mp issued value found
  simp [reachesClock, present, found, read]

theorem decode_iff {token : String} :
    decode token expected = .ok claims ↔
      (token ≠ "" ∧ expected.secret ≠ "" ∧ expected.clientId ≠ "") ∧
        verified expected.secret token.toList = .ok claims ∧
        checkClaims expected claims = .ok () ∧ expected.clock.combines expected.leeway = true := by
  simp only [decode]
  by_cases noToken : token = ""
  · simp [noToken]
  by_cases noSecret : expected.secret = ""
  · simp [noToken, noSecret]
  by_cases noClient : expected.clientId = ""
  · simp [noToken, noSecret, noClient]
  cases read : verified expected.secret token.toList with
  | error failure => simp [noToken, noSecret, noClient]
  | ok members =>
      cases checked : checkClaims expected members with
      | error refusal =>
          simp only [noToken, noSecret, noClient, ↓reduceIte, checked]
          constructor
          · intro impossible
            split at impossible <;> contradiction
          · rintro ⟨_, same, allowed, _⟩
            simp only [Except.ok.injEq] at same
            subst same
            rw [checked] at allowed
            contradiction
      | ok =>
          simp only [noToken, noSecret, noClient, ↓reduceIte, checked, claims_reach checked,
            Bool.true_and, Bool.not_eq_true']
          cases combined : expected.clock.combines expected.leeway with
          | false => simp
          | true =>
              simp only [Bool.true_eq_false, ↓reduceIte, Except.ok.injEq, and_true]
              constructor
              · rintro rfl
                exact ⟨⟨noToken, noSecret, noClient⟩, rfl, checked⟩
              · rintro ⟨_, same, _⟩
                exact same

end Checks

def Later (bound : Number) (time : Int) : Prop :=
  ∃ position, bound.position? = some position ∧ position < Position.ofInt time

def NotLater (bound : Number) (time : Int) : Prop :=
  ∃ position, bound.position? = some position ∧ Position.ofInt time ≤ position

structure Fitting (expected : Expected) (claims : Members) : Prop where
  required : ∀ name ∈ ["exp", "iat", "iss", "aud", "sub"],
    ∃ value, claims.lookup (.plain name) = some value ∧ value ≠ .null
  issuer : claims.lookup (.plain "iss") = some (.string expected.issuer)
  audience : ∃ audience, claims.lookup (.plain "aud") = some audience ∧
    Addresses audience expected.clientId
  expiration : ∃ time, (claims.lookup (.plain "exp")).bind timeOf? = some time ∧
    Later (expected.clock.sub expected.leeway) time
  issuedAt : ∃ time, (claims.lookup (.plain "iat")).bind timeOf? = some time ∧
    NotLater (expected.clock.add expected.leeway) time
  notBefore : ∀ value, claims.lookup (.plain "nbf") = some value →
    ∃ time, timeOf? value = some time ∧ NotLater (expected.clock.add expected.leeway) time

theorem later_of_check {bound : Number} {time : Int}
    (known : ∃ position, bound.position? = some position) (passed : bound.atLeast time = false) :
    Later bound time := by
  obtain ⟨position, known⟩ := known
  refine ⟨position, known, lt_of_not_ge fun reached => ?_⟩
  rw [(Number.atLeast_iff known).mpr reached] at passed
  contradiction

theorem notLater_of_check {bound : Number} {time : Int}
    (known : ∃ position, bound.position? = some position) (passed : bound.below time = false) :
    NotLater bound time := by
  obtain ⟨position, known⟩ := known
  refine ⟨position, known, le_of_not_gt fun beyond => ?_⟩
  rw [(Number.below_iff known).mpr beyond] at passed
  contradiction

theorem fitting_of_check (checked : checkClaims expected claims = .ok ())
    (client : expected.clientId ≠ "") (clock : Decimal.isFinite expected.now.toFloat = true)
    (margin : expected.leeway.position? ≠ none) : Fitting expected claims := by
  obtain ⟨present, issued, begun, unexpired, issuer, audience, _, _⟩ := claims_iff.mp checked
  have required := missing_none_iff.mp present
  have reading : Decimal.isFinite expected.clock.toFloat = true := clock
  have early := Number.sub_position reading margin
  have late := Number.add_position reading margin
  constructor
  case required => exact required
  case issuer => exact issuer_iff.mp issuer
  case audience =>
    obtain ⟨value, found, _⟩ := required "aud" (by decide)
    exact ⟨value, found, (audience_iff found client).mp audience⟩
  case expiration =>
    obtain ⟨value, found, _⟩ := required "exp" (by decide)
    obtain ⟨time, read, passed⟩ := expiration_iff.mp unexpired value found
    exact ⟨time, by simp [found, read], later_of_check early passed⟩
  case issuedAt =>
    obtain ⟨value, found, _⟩ := required "iat" (by decide)
    obtain ⟨time, read, passed⟩ := issuedAt_iff.mp issued value found
    exact ⟨time, by simp [found, read], notLater_of_check late passed⟩
  case notBefore =>
    intro value found
    obtain ⟨time, read, passed⟩ := notBefore_iff.mp begun value found
    exact ⟨time, read, notLater_of_check late passed⟩

-- An accepted token is signed under the secret by the one algorithm; the claims that come of it are
-- those of its payload and fit what was expected. The clock is a reading within the range of
-- floats, and the leeway any number at all, so that the two bounds of the time window exist.
theorem decode_sound {token : String} (accepted : decode token expected = .ok claims)
    (clock : Decimal.isFinite expected.now.toFloat = true)
    (margin : expected.leeway.position? ≠ none) :
    ∃ segments header, Authentic expected.secret token.toList segments header claims ∧
      Fitting expected claims := by
  obtain ⟨⟨_, _, client⟩, read, checked, _⟩ := decode_iff.mp accepted
  obtain ⟨segments, header, authentic, _⟩ := verified_authentic read
  exact ⟨segments, header, authentic, fitting_of_check checked client clock margin⟩

section Example

def exampleExpected : Expected :=
  ⟨"secret", "client", "https://tenant/", .whole 60, .broken 1700000000.5⟩

def exampleHeader : Octets := Utf8.encode "\x7b\"alg\":\"HS256\"\x7d".toList

def examplePayload : Octets :=
  Utf8.encode ("\x7b\"iss\":\"https://tenant/\",\"aud\":[\"other\",\"client\"],\"sub\":\"user\"," ++
    "\"exp\":1700000000,\"iat\":\"1700000060\"\x7d").toList

def exampleClaims : Members :=
  [("iss", .string "https://tenant/"), ("aud", .array [.string "other", .string "client"]),
    ("sub", .string "user"), ("exp", .int 1700000000), ("iat", .string "1700000060")]

def exampleToken : String := String.ofList (compact "secret" exampleHeader examplePayload)

theorem decode_sound_example :
    decode exampleToken exampleExpected = .ok exampleClaims ∧
      ∃ segments header,
        Authentic exampleExpected.secret exampleToken.toList segments header exampleClaims ∧
          Fitting exampleExpected exampleClaims := by
  have text : exampleToken.toList = compact "secret" exampleHeader examplePayload :=
    String.toList_ofList
  have headerObject : Json.ofBytes exampleHeader = .ok (.object [("alg", .string "HS256")]) := by
    decide +kernel
  have payloadObject : Json.ofBytes examplePayload = .ok (.object exampleClaims) := by
    decide +kernel
  obtain ⟨segments, authentic⟩ := compact_authentic "secret" headerObject (by decide) payloadObject
  have usable : Usable "secret" [("alg", .string "HS256")] :=
    ⟨by decide, by decide, by decide +kernel⟩
  have accepted : decode exampleToken exampleExpected = .ok exampleClaims := by
    refine decode_iff.mpr ⟨⟨?_, by decide, by decide⟩, ?_, by decide +kernel, by decide +kernel⟩
    · intro empty
      have length := congrArg (fun token => token.toList.length) empty
      simp [text, compact] at length
    · rw [text]
      exact authentic_verified authentic usable
  have clock : Decimal.isFinite exampleExpected.now.toFloat = true := by decide +kernel
  have margin : exampleExpected.leeway.position? ≠ none := by
    simp [exampleExpected, Number.position?]
  exact ⟨accepted, decode_sound accepted clock margin⟩

end Example

end TenantApi.IdToken
