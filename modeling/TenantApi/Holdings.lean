import TenantApi.Session

/-!
What a program holds: connections, and clients of the two APIs over them. A client makes a
connection of its own or is given one that is there already, which others may share; closing it
closes the connection that it made and no other. The ids of calls are common to all connections.
-/

namespace TenantApi

structure Client where
  connection : Nat
  ownsConnection : Bool
  deriving DecidableEq, Repr

/-- Who is asked to do something, by its number in the order in which they were made. -/
inductive Holder where
  | connection (index : Nat)
  | client (index : Nat)
  deriving DecidableEq, Repr

inductive Api where
  | management (domain token : Option String)
  | authentication (domain : Option String)
  deriving DecidableEq, Repr

structure Holdings where
  connections : List Connection
  clients : List Client
  ids : Correlation

inductive Move where
  | connect (runtimeVersion base : String) (token : Option String) (given : Fields)
      (timeout : Option Number)
  /-- A client with a connection of its own. -/
  | create (api : Api) (runtimeVersion : String) (timeout : Option Number)
  /-- A client over a connection that is there. -/
  | share (connection : Nat)
  | perform (holder : Holder) (operation : Operation) (exchange : Exchange) (elapsed : Float)
  | decodeIdToken (holder : Holder) (token : String) (clientId clientSecret : Option String)
      (leeway now : Number)
  | enter (holder : Holder)
  | close (holder : Holder)

variable [Platform]

def Api.connection (settings : Settings) (runtimeVersion : String) (timeout : Option Number)
    (api : Api) : Except Failure Connection :=
  Session.connection <$> match api with
    | .management domain token => Session.management settings runtimeVersion domain token timeout
    | .authentication domain => Session.authentication settings runtimeVersion domain timeout

namespace Holdings

structure Effect where
  result : Except Failure Answer
  sent : List Sent
  log : List Entry
  holdings : Holdings

def empty : Holdings := ⟨[], [], .idle⟩

def reach? (holdings : Holdings) : Holder → Option Nat
  | .connection index => some index
  | .client index => holdings.clients[index]?.map Client.connection

def closes (holdings : Holdings) : Holder → Bool
  | .connection _ => true
  | .client index => holdings.clients[index]?.any Client.ownsConnection

/-- Takes in a connection and clients over it; one that could not be made leaves nothing. -/
def take (holdings : Holdings) (made : Except Failure Connection) (clients : List Client) :
    Effect :=
  match made with
  | .error failure => ⟨.error failure, [], [], holdings⟩
  | .ok connection =>
      ⟨.ok .nothing, [], [],
        { holdings with
          connections := holdings.connections ++ [connection]
          clients := holdings.clients ++ clients }⟩

def view (holdings : Holdings) (connection : Connection) : Session :=
  { Session.ofConnection connection with ids := holdings.ids }

def through? (holdings : Holdings) (holder : Holder) (turnOf : Session → Turn) :
    Option Effect := do
  let index ← holdings.reach? holder
  let connection ← holdings.connections[index]?
  let turn := turnOf (holdings.view connection)
  return ⟨turn.result, turn.sent, turn.log,
    { holdings with
      connections := holdings.connections.set index turn.session.connection
      ids := turn.session.ids }⟩

def closeTurn (closes : Bool) (session : Session) : Turn :=
  (if closes then { session with connection := session.connection.close }
    else session).answer (.ok .nothing)

/-- What comes of a move; nothing where it is about something that is not there. -/
def step? (settings : Settings) (holdings : Holdings) : Move → Option Effect
  | .connect runtimeVersion base token given timeout =>
      let made := Connection.new settings runtimeVersion base token given timeout
      some (holdings.take (made.mapError .request) [])
  | .create api runtimeVersion timeout =>
      some (holdings.take (api.connection settings runtimeVersion timeout)
        [⟨holdings.connections.length, true⟩])
  | .share connection =>
      if connection < holdings.connections.length then
        some ⟨.ok .nothing, [], [],
          { holdings with clients := holdings.clients ++ [⟨connection, false⟩] }⟩
      else none
  | .perform holder operation exchange elapsed =>
      holdings.through? holder fun session => session.perform operation exchange elapsed
  | .decodeIdToken holder token clientId clientSecret leeway now =>
      holdings.through? holder fun session =>
        session.decodeIdToken settings token clientId clientSecret leeway now
  | .enter holder => holdings.through? holder fun session => session.answer (.ok .self)
  | .close holder => holdings.through? holder (closeTurn (holdings.closes holder))

def after? (settings : Settings) (holdings : Holdings) : List Move → Option Holdings
  | [] => some holdings
  | move :: rest => do
      let effect ← holdings.step? settings move
      after? settings effect.holdings rest

end Holdings

end TenantApi
