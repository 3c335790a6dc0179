import TenantApi.Correlation
import TenantApi.IdToken.Claims
import TenantApi.Operation
import TenantApi.Tenant

/-!
Sessions: a connection, the clients that share it, and what is done through them one after another.
A connection is closed by itself and by the client that made it, and by no other. Operations that
are refused for their arguments leave everything as it was; all others run in a scope with an id of
their own.
-/

namespace TenantApi

inductive Party where
  | connection
  | management
  | authentication
  deriving DecidableEq, Repr

structure Session where
  connection : Connection
  ids : Correlation
  /-- Who made the connection; clients that were given one did not. -/
  creator : Party

/-- What a program does through a party. Calls come with what the service does about them and the
seconds that takes; a token is checked at a time. -/
inductive Action where
  | perform (operation : Operation) (exchange : Exchange) (elapsed : Float)
  | decodeIdToken (token : String) (clientId clientSecret : Option String) (leeway now : Number)
  | enter (party : Party)
  | close (party : Party)

structure Turn where
  result : Except Failure Answer
  sent : List Sent
  log : List Entry
  session : Session

namespace Session

variable [Platform]

def ofConnection (connection : Connection) : Session := ⟨connection, .idle, .connection⟩

def management (settings : Settings) (runtimeVersion : String) (domain token : Option String)
    (timeout : Option Number) : Except Failure Session := do
  let base ← (Tenant.managementBase settings domain).mapError .argument
  let token ← (Tenant.managementToken settings token).mapError .argument
  let connection ← (Connection.new settings runtimeVersion base (some token) [] timeout).mapError
    .request
  return { ofConnection connection with creator := .management }

def authentication (settings : Settings) (runtimeVersion : String) (domain : Option String)
    (timeout : Option Number) : Except Failure Session := do
  let base ← (Tenant.authenticationBase settings domain).mapError .argument
  let connection ← (Connection.new settings runtimeVersion base none [] timeout).mapError .request
  return { ofConnection connection with creator := .authentication }

def answer (session : Session) (result : Except Failure Answer) : Turn := ⟨result, [], [], session⟩

def exchange (session : Session) (call : Call) (shape : Shape) (exchange : Exchange)
    (elapsed : Float) : Turn :=
  let ids := session.ids.enter none
  let outcome := session.connection.send ids.current call exchange elapsed
  { result := outcome.result.bind shape.read
    sent := outcome.sent
    log := outcome.log
    session := { session with connection := outcome.connection, ids := ids.leave } }

def perform (session : Session) (operation : Operation) (exchange : Exchange) (elapsed : Float) :
    Turn :=
  match operation.call with
  | .error fault => session.answer (.error (.argument fault))
  | .ok call => session.exchange call operation.shape exchange elapsed

def issuer (session : Session) : String :=
  String.ofList (Text.trimEnd (· = '/') session.connection.base.chars ++ ['/'])

def decodeIdToken (settings : Settings) (session : Session) (token : String)
    (clientId clientSecret : Option String) (leeway now : Number) : Turn :=
  let expected : IdToken.Expected :=
    ⟨Settings.orSetting clientSecret settings.clientSecret,
      Settings.orSetting clientId settings.clientId, session.issuer, leeway, now⟩
  match IdToken.decode token expected with
  | .ok claims => session.answer (.ok (.claims claims))
  | .error failure =>
      { session.answer (.error (.token expected failure)) with
        log := failure.logged?.toList.map fun reason =>
          ⟨session.ids.current, .tokenRejected reason⟩ }

/-- The rate limit of the latest response as a party shows it: clients keep none of their own. -/
def rateLimit (session : Session) : Party → Option RateLimit
  | .connection | .management | .authentication => session.connection.lastRateLimit

def close (session : Session) (party : Party) : Session :=
  if party = .connection ∨ party = session.creator then
    { session with connection := session.connection.close }
  else session

def step (settings : Settings) (session : Session) : Action → Turn
  | .perform operation exchange elapsed => session.perform operation exchange elapsed
  | .decodeIdToken token clientId clientSecret leeway now =>
      session.decodeIdToken settings token clientId clientSecret leeway now
  | .enter _ => session.answer (.ok .self)
  | .close party => (session.close party).answer (.ok .nothing)

def run (settings : Settings) (session : Session) : List Action → List Turn
  | [] => []
  | action :: rest =>
      let turn := session.step settings action
      turn :: run settings turn.session rest

end Session

end TenantApi
