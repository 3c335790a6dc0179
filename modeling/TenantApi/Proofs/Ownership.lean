import TenantApi.Holdings
import TenantApi.Platform.Stock
import TenantApi.Proofs.CallOutcome
import TenantApi.Proofs.RateLimitRun

/-!
Who closes a connection, over whole runs of a program. A connection is closed by itself and by the
client that made it, whatever else happens in between; a client that was given its connection closes
nothing. A connection that is closed stays so, and no call goes through it any more. A session is
the case of one connection and one client of each API.
-/

namespace TenantApi

open Fallible (map_ok mapError_ok)

namespace Connection

variable [Platform] {connection : Connection}

theorem send_isClosed {id : String} {call : Call} {exchange : Exchange} {elapsed : Float} :
    (connection.send id call exchange elapsed).connection.isClosed = connection.isClosed := by
  rcases send_cases connection id call exchange elapsed with
    ⟨_, _, outcome, _⟩ | ⟨request, response, outcome, fits, _⟩
  · rw [outcome]
  · rw [outcome]
    simp only [receive, fits]
    split
    case h_1 => rfl
    case h_2 => split <;> rfl

theorem new_isClosed {settings : Settings} {runtimeVersion base : String} {token : Option String}
    {given : Fields} {timeout : Option Number}
    (made : new settings runtimeVersion base token given timeout = .ok connection) :
    connection.isClosed = false := by
  obtain ⟨_, _, _, _, rfl⟩ := new_made made
  rfl

end Connection

theorem Api.connection_isClosed [Platform] {settings : Settings} {runtimeVersion : String}
    {timeout : Option Number} {api : Api} {connection : Connection}
    (made : api.connection settings runtimeVersion timeout = .ok connection) :
    connection.isClosed = false := by
  obtain ⟨session, opened, rfl⟩ := map_ok.mp made
  cases api with
  | management domain token =>
      obtain ⟨_, _, _, made⟩ := Session.management_made opened
      exact Connection.new_isClosed made
  | authentication domain =>
      obtain ⟨_, _, made⟩ := Session.authentication_made opened
      exact Connection.new_isClosed made

namespace Session

variable {settings : Settings} {session : Session}

theorem decodeIdToken_session {token : String} {clientId clientSecret : Option String}
    {leeway now : Number} :
    (session.decodeIdToken settings token clientId clientSecret leeway now).session = session := by
  simp only [decodeIdToken]
  split <;> rfl

theorem perform_isClosed [Platform] {operation : Operation} {exchange : Exchange}
    {elapsed : Float} :
    (session.perform operation exchange elapsed).session.connection.isClosed =
      session.connection.isClosed := by
  cases called : operation.call with
  | error fault =>
      rw [perform_refused called]
      rfl
  | ok call =>
      rw [perform_called called]
      exact Connection.send_isClosed

end Session

namespace Holdings

section Histories
variable {event : List Move → Move → Prop} {moves : List Move} {move : Move}

/-- Some move of a history was an event of a kind, which depends on the moves before it. -/
def Happened (event : List Move → Move → Prop) (moves : List Move) : Prop :=
  ∃ before move rest, moves = before ++ move :: rest ∧ event before move

theorem happened_nil : ¬Happened event [] := by
  rintro ⟨before, move, rest, same, _⟩
  simp at same

theorem happened_snoc :
    Happened event (moves ++ [move]) ↔ Happened event moves ∨ event moves move := by
  constructor
  · rintro ⟨before, found, rest, same, happened⟩
    rcases List.eq_nil_or_concat rest with rfl | ⟨others, last, rfl⟩
    · obtain ⟨rfl, last⟩ := List.append_inj' same rfl
      cases last
      exact .inr happened
    · rw [List.concat_eq_append, ← List.cons_append, ← List.append_assoc] at same
      obtain ⟨rfl, _⟩ := List.append_inj' same rfl
      exact .inl ⟨before, found, others, rfl, happened⟩
  · rintro (⟨before, found, rest, rfl, happened⟩ | happened)
    · exact ⟨before, found, rest ++ [move], by simp, happened⟩
    · exact ⟨moves, move, [], rfl, happened⟩

end Histories

section Runs
variable {settings : Settings} {holdings held final : Holdings} {moves : List Move} {move : Move}
  {effect : Effect} {holder : Holder} {index : Nat}

theorem through_iff {turnOf : Session → Turn} :
    holdings.through? holder turnOf = some effect ↔
      ∃ index connection, holdings.reach? holder = some index ∧
        holdings.connections[index]? = some connection ∧
        effect = ⟨(turnOf (holdings.view connection)).result,
          (turnOf (holdings.view connection)).sent, (turnOf (holdings.view connection)).log,
          { holdings with
            connections := holdings.connections.set index
              (turnOf (holdings.view connection)).session.connection
            ids := (turnOf (holdings.view connection)).session.ids }⟩ := by
  simp only [through?, bind, pure, Option.bind_eq_some_iff, Option.some.injEq]
  constructor
  · rintro ⟨index, reached, connection, found, rfl⟩
    exact ⟨index, connection, reached, found, rfl⟩
  · rintro ⟨index, connection, reached, found, rfl⟩
    exact ⟨index, reached, connection, found, rfl⟩

/-! ### What a move closes -/

def isClosed (holdings : Holdings) (index : Nat) : Bool :=
  holdings.connections[index]?.any Connection.isClosed

theorem take_isClosed {made : Except Failure Connection} {clients : List Client}
    (fresh : ∀ connection, made = .ok connection → connection.isClosed = false) :
    (holdings.take made clients).holdings.isClosed index = holdings.isClosed index := by
  cases made with
  | error failure => rfl
  | ok connection =>
      simp only [take, isClosed, List.getElem?_append]
      split
      case isTrue => rfl
      case isFalse beyond =>
        rw [List.getElem?_eq_none (not_lt.mp beyond), List.getElem?_singleton]
        split
        case isTrue => exact fresh connection rfl
        case isFalse => rfl

-- A turn touches the connection of its holder and no other.
theorem through_isClosed {turnOf : Session → Turn}
    (turned : holdings.through? holder turnOf = some effect) :
    ∃ connection reached, holdings.reach? holder = some reached ∧
      holdings.connections[reached]? = some connection ∧
      effect.holdings.isClosed index =
        if reached = index then (turnOf (holdings.view connection)).session.connection.isClosed
        else holdings.isClosed index := by
  obtain ⟨reached, connection, known, found, rfl⟩ := through_iff.mp turned
  refine ⟨connection, reached, known, found, ?_⟩
  have there : reached < holdings.connections.length := (List.getElem?_eq_some_iff.mp found).1
  simp only [isClosed, List.getElem?_set, there, ↓reduceIte]
  split <;> rfl

theorem through_quiet {turnOf : Session → Turn}
    (quiet : ∀ session, (turnOf session).session.connection.isClosed =
      session.connection.isClosed)
    (turned : holdings.through? holder turnOf = some effect) :
    effect.holdings.isClosed index = holdings.isClosed index := by
  obtain ⟨connection, reached, _, found, closed⟩ := through_isClosed turned
  rw [closed, quiet]
  split
  case isTrue same =>
    subst same
    simp [isClosed, found, view, Session.ofConnection]
  case isFalse => rfl

theorem close_isClosed
    (closed : holdings.through? holder (closeTurn (holdings.closes holder)) = some effect) :
    effect.holdings.isClosed index = true ↔ holdings.isClosed index = true ∨
      holdings.reach? holder = some index ∧ holdings.closes holder = true := by
  obtain ⟨connection, reached, known, found, after⟩ := through_isClosed closed
  rw [after, known, Option.some.injEq]
  by_cases same : reached = index
  · subst same
    cases closes : holdings.closes holder
    · simp [closeTurn, isClosed, found, view, Session.ofConnection, Session.answer]
    · simp [closeTurn, Session.answer, Connection.close]
  · simp [same]

variable [Platform]

-- Of all moves only a close closes anything.
theorem step_isClosed (stepped : holdings.step? settings move = some effect) :
    effect.holdings.isClosed index = true ↔ holdings.isClosed index = true ∨
      ∃ holder, move = .close holder ∧ holdings.reach? holder = some index ∧
        holdings.closes holder = true := by
  have quiet (same : effect.holdings.isClosed index = holdings.isClosed index)
      (other : ∀ holder, move ≠ .close holder) :
      effect.holdings.isClosed index = true ↔ holdings.isClosed index = true ∨
        ∃ holder, move = .close holder ∧ holdings.reach? holder = some index ∧
          holdings.closes holder = true := by
    simp [same, other]
  cases move with
  | connect runtimeVersion base token given timeout =>
      cases stepped
      refine quiet (take_isClosed fun connection made => ?_) (by simp)
      exact Connection.new_isClosed (mapError_ok.mp made)
  | create api runtimeVersion timeout =>
      cases stepped
      exact quiet (take_isClosed fun connection => Api.connection_isClosed) (by simp)
  | share connection =>
      simp only [step?, Option.ite_none_right_eq_some, Option.some.injEq] at stepped
      obtain ⟨_, rfl⟩ := stepped
      exact quiet rfl (by simp)
  | perform holder operation exchange elapsed =>
      exact quiet (through_quiet (fun session => Session.perform_isClosed) stepped) (by simp)
  | decodeIdToken holder token clientId clientSecret leeway now =>
      simp only [step?] at stepped
      refine quiet (through_quiet (fun session => ?_) stepped) (by simp)
      rw [Session.decodeIdToken_session]
  | enter holder => exact quiet (through_quiet (fun session => rfl) stepped) (by simp)
  | close holder =>
      rw [close_isClosed stepped]
      simp

/-! ### Who made a connection -/

def Creates (settings : Settings) (client connection : Nat) (before : List Move) (move : Move) :
    Prop :=
  ∃ api runtimeVersion timeout made holdings, move = .create api runtimeVersion timeout ∧
    api.connection settings runtimeVersion timeout = .ok made ∧
    empty.after? settings before = some holdings ∧
    holdings.clients.length = client ∧ holdings.connections.length = connection

def MadeBy (settings : Settings) (client connection : Nat) (moves : List Move) : Prop :=
  Happened (Creates settings client connection) moves

omit [Platform] in
theorem through_clients {turnOf : Session → Turn}
    (turned : holdings.through? holder turnOf = some effect) :
    effect.holdings.clients = holdings.clients := by
  obtain ⟨_, _, _, _, rfl⟩ := through_iff.mp turned
  rfl

omit [Platform] in
theorem snoc_getElem {clients : List Client} {added client : Client} {index : Nat} :
    (clients ++ [added])[index]? = some client ↔
      clients[index]? = some client ∨ clients.length = index ∧ added = client := by
  rw [List.getElem?_append]
  split
  case isTrue before => simp [before.ne']
  case isFalse beyond =>
    rw [List.getElem?_eq_none (not_lt.mp beyond), List.getElem?_singleton]
    split
    case isTrue zero => simp [le_antisymm (not_lt.mp beyond) (Nat.sub_eq_zero_iff_le.mp zero)]
    case isFalse later =>
      have other : clients.length ≠ index := by omega
      simp [other]

-- Ownership is handed out at creation alone and never taken back.
theorem step_owner {client : Nat} (stepped : holdings.step? settings move = some effect) :
    effect.holdings.clients[client]? = some ⟨index, true⟩ ↔
      holdings.clients[client]? = some ⟨index, true⟩ ∨
        ∃ api runtimeVersion timeout made, move = .create api runtimeVersion timeout ∧
          api.connection settings runtimeVersion timeout = .ok made ∧
          holdings.clients.length = client ∧ holdings.connections.length = index := by
  have quiet (same : effect.holdings.clients = holdings.clients)
      (other : ∀ api runtimeVersion timeout, move ≠ .create api runtimeVersion timeout) :
      effect.holdings.clients[client]? = some ⟨index, true⟩ ↔
        holdings.clients[client]? = some ⟨index, true⟩ ∨
          ∃ api runtimeVersion timeout made, move = .create api runtimeVersion timeout ∧
            api.connection settings runtimeVersion timeout = .ok made ∧
            holdings.clients.length = client ∧ holdings.connections.length = index := by
    simp [same, other]
  cases move with
  | connect runtimeVersion base token given timeout =>
      cases stepped
      refine quiet ?_ (by simp)
      simp only [take]
      split
      case h_1 => rfl
      case h_2 => simp
  | create api runtimeVersion timeout =>
      simp only [step?, Option.some.injEq] at stepped
      cases made : api.connection settings runtimeVersion timeout with
      | error failure =>
          simp only [take, made] at stepped
          subst stepped
          simp only [Move.create.injEq, iff_self_or]
          rintro ⟨_, _, _, _, ⟨rfl, rfl, rfl⟩, other, _⟩
          cases made.symm.trans other
      | ok connection =>
          simp only [take, made] at stepped
          subst stepped
          rw [snoc_getElem]
          simp [made]
  | share connection =>
      simp only [step?, Option.ite_none_right_eq_some, Option.some.injEq] at stepped
      obtain ⟨_, rfl⟩ := stepped
      rw [snoc_getElem]
      simp
  | perform | decodeIdToken | enter | close =>
      simp only [step?] at stepped
      exact quiet (through_clients stepped) (by simp)

theorem after_snoc : holdings.after? settings (moves ++ [move]) = some final ↔
    ∃ held effect, holdings.after? settings moves = some held ∧
      held.step? settings move = some effect ∧ effect.holdings = final := by
  induction moves generalizing holdings with
  | nil => simp [after?, Option.bind_eq_some_iff]
  | cons first rest ih =>
      simp only [List.cons_append, after?, Option.bind_eq_some_iff, ih, bind]
      constructor
      · rintro ⟨early, stepped, held, effect, run, last, same⟩
        exact ⟨held, effect, ⟨early, stepped, run⟩, last, same⟩
      · rintro ⟨held, effect, ⟨early, stepped, run⟩, last, same⟩
        exact ⟨early, stepped, held, effect, run, last, same⟩

-- By induction from the end: the numbers that a creation hands out are the sizes that the moves
-- before it have left, so the last move and the earlier ones make different clients.
theorem madeBy_iff {client connection : Nat} (run : empty.after? settings moves = some holdings) :
    MadeBy settings client connection moves ↔
      holdings.clients[client]? = some ⟨connection, true⟩ := by
  induction moves using List.reverseRecOn generalizing holdings with
  | nil =>
      cases run
      simpa [empty, MadeBy] using happened_nil
  | append_singleton moves move ih =>
      obtain ⟨held, effect, early, stepped, rfl⟩ := after_snoc.mp run
      rw [MadeBy, happened_snoc, ← MadeBy, ih early, step_owner stepped]
      refine or_congr_right ⟨?_, ?_⟩
      · rintro ⟨api, runtimeVersion, timeout, made, known, same, done, before, sizes⟩
        cases early.symm.trans before
        exact ⟨api, runtimeVersion, timeout, made, same, done, sizes⟩
      · rintro ⟨api, runtimeVersion, timeout, made, same, done, sizes⟩
        exact ⟨api, runtimeVersion, timeout, made, held, same, done, early, sizes⟩

/-! ### Runs -/

/-- A close that is one of a connection: its own, or that of the client that made it. -/
inductive Closes (settings : Settings) (index : Nat) : List Move → Move → Prop where
  | own {before : List Move} : Closes settings index before (.close (.connection index))
  | maker {before : List Move} {client : Nat} (made : MadeBy settings client index before) :
      Closes settings index before (.close (.client client))

theorem closes_iff (run : empty.after? settings moves = some holdings) :
    Closes settings index moves move ↔
      ∃ holder, move = .close holder ∧ holdings.reach? holder = some index ∧
        holdings.closes holder = true := by
  constructor
  · rintro (_ | ⟨made⟩)
    · exact ⟨.connection index, rfl, rfl, rfl⟩
    · have owner := (madeBy_iff run).mp made
      exact ⟨.client _, rfl, by simp [reach?, owner], by simp [closes, owner]⟩
  · rintro ⟨holder, rfl, reached, closing⟩
    cases holder with
    | connection other =>
        cases reached
        exact .own
    | client client =>
        simp only [reach?, Option.map_eq_some_iff] at reached
        obtain ⟨⟨_, owns⟩, owner, rfl⟩ := reached
        simp only [closes, owner, Option.any_some] at closing
        subst closing
        exact .maker ((madeBy_iff run).mpr owner)

theorem closed_iff (run : empty.after? settings moves = some holdings) :
    holdings.isClosed index = true ↔ Happened (Closes settings index) moves := by
  induction moves using List.reverseRecOn generalizing holdings with
  | nil =>
      cases run
      simpa [isClosed, empty] using happened_nil
  | append_singleton moves move ih =>
      obtain ⟨held, effect, early, stepped, rfl⟩ := after_snoc.mp run
      rw [step_isClosed stepped, ih early, happened_snoc, closes_iff early]

theorem after_closed (closed : holdings.isClosed index = true) {later : List Move}
    (run : holdings.after? settings later = some final) : final.isClosed index = true := by
  induction later generalizing holdings with
  | nil =>
      cases run
      exact closed
  | cons move rest ih =>
      simp only [after?, bind, Option.bind_eq_some_iff] at run
      obtain ⟨effect, stepped, run⟩ := run
      exact ih ((step_isClosed stepped).mpr (.inl closed)) run

-- Closing changes one connection at most, and that as any close of it does.
theorem close_iff : holdings.step? settings (.close holder) = some effect ↔
    ∃ index connection, holdings.reach? holder = some index ∧
      holdings.connections[index]? = some connection ∧
      effect = ⟨.ok .nothing, [], [],
        { holdings with
          connections := holdings.connections.set index
            (if holdings.closes holder then connection.close else connection) }⟩ := by
  simp only [step?, through_iff]
  cases holdings.closes holder <;> rfl

theorem close_again (closed : holdings.step? settings (.close holder) = some effect) :
    effect.holdings.step? settings (.close holder) = some effect := by
  obtain ⟨index, connection, reached, found, rfl⟩ := close_iff.mp closed
  have there : index < holdings.connections.length := (List.getElem?_eq_some_iff.mp found).1
  have same (connections : List Connection) :
      ({ holdings with connections } : Holdings).reach? holder = holdings.reach? holder ∧
        ({ holdings with connections } : Holdings).closes holder = holdings.closes holder := by
    cases holder <;> exact ⟨rfl, rfl⟩
  refine close_iff.mpr ⟨index, if holdings.closes holder then connection.close else connection,
    (same _).1.trans reached, List.getElem?_set_self there, ?_⟩
  simp only [(same _).2, List.set_set]
  split <;> rfl

def Sound (holdings : Holdings) : Prop :=
  ∀ client ∈ holdings.clients, client.connection < holdings.connections.length

def Has (holdings : Holdings) : Holder → Prop
  | .connection index => index < holdings.connections.length
  | .client index => index < holdings.clients.length

omit [Platform] in
theorem take_sound {made : Except Failure Connection} {clients : List Client}
    (sound : holdings.Sound)
    (bounded : ∀ client ∈ clients, client.connection ≤ holdings.connections.length) :
    (holdings.take made clients).holdings.Sound := by
  cases made with
  | error failure => exact sound
  | ok connection =>
      intro client member
      simp only [take, List.length_append, List.length_singleton]
      rcases List.mem_append.mp member with old | new
      · exact Nat.lt_succ_of_lt (sound client old)
      · exact Nat.lt_succ_of_le (bounded client new)

theorem step_sound (sound : holdings.Sound)
    (stepped : holdings.step? settings move = some effect) : effect.holdings.Sound := by
  cases move with
  | connect runtimeVersion base token given timeout =>
      cases stepped
      exact take_sound sound (by simp)
  | create api runtimeVersion timeout =>
      cases stepped
      exact take_sound sound (by simp)
  | share connection =>
      simp only [step?, Option.ite_none_right_eq_some, Option.some.injEq] at stepped
      obtain ⟨there, rfl⟩ := stepped
      intro client member
      rcases List.mem_append.mp member with old | new
      · exact sound client old
      · cases List.mem_singleton.mp new
        exact there
  | perform | decodeIdToken | enter | close =>
      simp only [step?] at stepped
      obtain ⟨_, _, _, _, rfl⟩ := through_iff.mp stepped
      intro client member
      rw [List.length_set]
      exact sound client member

theorem run_sound (run : empty.after? settings moves = some holdings) : holdings.Sound := by
  induction moves using List.reverseRecOn generalizing holdings with
  | nil =>
      cases run
      simp [Sound, empty]
  | append_singleton moves move ih =>
      obtain ⟨held, effect, early, stepped, rfl⟩ := after_snoc.mp run
      exact step_sound (ih early) stepped

omit [Platform] in
theorem sound_reach (sound : holdings.Sound) (has : holdings.Has holder) :
    ∃ index connection, holdings.reach? holder = some index ∧
      holdings.connections[index]? = some connection := by
  cases holder with
  | connection index => exact ⟨index, _, rfl, List.getElem?_eq_getElem has⟩
  | client index =>
      have known := List.getElem?_eq_getElem has
      refine ⟨_, _, ?_, List.getElem?_eq_getElem (sound _ (List.getElem_mem has))⟩
      simp only [reach?, known, Option.map_some]

theorem close_given {client : Nat} (run : empty.after? settings moves = some holdings)
    (has : holdings.Has (.client client))
    (given : ∀ connection, ¬MadeBy settings client connection moves) :
    holdings.step? settings (.close (.client client)) = some ⟨.ok .nothing, [], [], holdings⟩ := by
  obtain ⟨index, connection, reached, found⟩ := sound_reach (run_sound run) has
  have free : holdings.closes (.client client) = false := by
    simp only [reach?, Option.map_eq_some_iff] at reached
    obtain ⟨⟨_, owns⟩, known, rfl⟩ := reached
    cases owns with
    | false => simp [closes, known]
    | true => exact absurd ((madeBy_iff run).mpr known) (given _)
  refine close_iff.mpr ⟨index, connection, reached, found, ?_⟩
  obtain ⟨there, rfl⟩ := List.getElem?_eq_some_iff.mp found
  simp only [free, Bool.false_eq_true, ↓reduceIte, List.set_getElem_self]

theorem close_once (run : empty.after? settings moves = some holdings)
    (has : holdings.Has holder) :
    ∃ effect, holdings.step? settings (.close holder) = some effect ∧
      effect.holdings.step? settings (.close holder) = some effect := by
  obtain ⟨index, connection, reached, found⟩ := sound_reach (run_sound run) has
  obtain ⟨effect, closed⟩ : ∃ effect, holdings.step? settings (.close holder) = some effect :=
    ⟨_, close_iff.mpr ⟨index, connection, reached, found, rfl⟩⟩
  exact ⟨effect, closed, close_again closed⟩

theorem perform_isRefused {connection : Connection} {operation : Operation} {exchange : Exchange}
    {elapsed : Float} {call : Call} {request : Request}
    (reached : holdings.reach? holder = some index)
    (found : holdings.connections[index]? = some connection)
    (closed : connection.isClosed = true) (called : operation.call = .ok call)
    (made : Request.ofCall connection.base connection.fields call = .ok request) :
    holdings.step? settings (.perform holder operation exchange elapsed) =
      some ⟨.error .closed, [], [],
        { holdings with ids := { holdings.ids with drawn := holdings.ids.drawn + 1 } }⟩ := by
  obtain ⟨there, same⟩ := List.getElem?_eq_some_iff.mp found
  simp only [step?]
  refine through_iff.mpr ⟨index, connection, reached, found, ?_⟩
  have refused := @Session.perform_closed _ (holdings.view connection) operation exchange elapsed
    call request called made closed
  rw [refused]
  simp [Session.past, view, Session.ofConnection, ← same]

-- After any moves of a program, and for every one of its connections.
theorem closed_by_owner (run : empty.after? settings moves = some holdings) (index : Nat) :
    (holdings.isClosed index = true ↔ Happened (Closes settings index) moves) ∧
      (∀ client, holdings.Has (.client client) →
        (∀ connection, ¬MadeBy settings client connection moves) →
        holdings.step? settings (.close (.client client)) =
          some ⟨.ok .nothing, [], [], holdings⟩) ∧
      (∀ holder, holdings.Has holder → ∃ effect,
        holdings.step? settings (.close holder) = some effect ∧
        effect.holdings.step? settings (.close holder) = some effect) ∧
      (holdings.isClosed index = true → ∀ later final,
        holdings.after? settings later = some final →
        final.isClosed index = true ∧
          ∀ holder operation exchange elapsed connection call request,
            final.reach? holder = some index → final.connections[index]? = some connection →
            operation.call = .ok call →
            Request.ofCall connection.base connection.fields call = .ok request →
            final.step? settings (.perform holder operation exchange elapsed) =
              some ⟨.error .closed, [], [],
                { final with ids := { final.ids with drawn := final.ids.drawn + 1 } }⟩) := by
  refine ⟨closed_iff run, fun client => close_given run, fun holder => close_once run, ?_⟩
  intro closed later final more
  have still := after_closed closed more
  refine ⟨still, fun holder operation exchange elapsed connection call request reached found => ?_⟩
  simp only [isClosed, found, Option.any_some] at still
  exact perform_isRefused reached found still

end Runs

section Example

open scoped TenantApi.Stock

def exampleMoves : List Move := [
  .create (.management (some "tenant.auth0.com") (some "token")) "3.11.0" none, .share 0,
  .close (.client 1), .close (.client 0)]

def jobCall : Call := Operation.plainCall "GET" "/jobs/job_1" .null

theorem closed_by_owner_shared :
    ∃ holdings, empty.after? .standard exampleMoves = some holdings ∧
      Happened (Closes .standard 0) exampleMoves ∧
      holdings.step? .standard (.close (.client 1)) = some ⟨.ok .nothing, [], [], holdings⟩ ∧
      holdings.step? .standard (.perform (.client 1) (.getJob "job_1") (.broken "" "") 0) =
        some ⟨.error .closed, [], [],
          { holdings with ids := { holdings.ids with drawn := holdings.ids.drawn + 1 } }⟩ := by
  have ready : ((empty.after? .standard exampleMoves).any fun holdings =>
      holdings.isClosed 0 && holdings.clients == [⟨0, true⟩, ⟨0, false⟩] &&
        (holdings.connections[0]?.any fun connection =>
          (Request.ofCall connection.base connection.fields jobCall).toOption.isSome)) = true := by
    decide +kernel
  simp only [Option.any_eq_true, Bool.and_eq_true, beq_iff_eq, Option.isSome_iff_exists,
    Fallible.toOption_some] at ready
  obtain ⟨holdings, run, ⟨closed, clients⟩, connection, found, request, made⟩ := ready
  obtain ⟨happened, shared, _, later⟩ := closed_by_owner run 0
  refine ⟨holdings, run, happened.mp closed, shared 1 ?_ ?_, ?_⟩
  · simp [Has, clients]
  · intro other maker
    simp [madeBy_iff run, clients] at maker
  · have called : (Operation.getJob "job_1").call = .ok jobCall := by rfl
    exact (later closed [] holdings rfl).2 (.client 1) _ _ _ connection jobCall request
      (by simp [reach?, clients]) found called made

end Example

/-! ### Sessions as holdings -/

def ofSession (session : Session) : Holdings :=
  ⟨[session.connection],
    [⟨0, session.creator = .management⟩, ⟨0, session.creator = .authentication⟩], session.ids⟩

def ofParty : Party → Holder
  | .connection => .connection 0
  | .management => .client 0
  | .authentication => .client 1

/-- An action as a move; calls and tokens go through a party of their own. -/
def ofAction (caller : Party) : Action → Move
  | .perform operation exchange elapsed => .perform (ofParty caller) operation exchange elapsed
  | .decodeIdToken token clientId clientSecret leeway now =>
      .decodeIdToken (ofParty caller) token clientId clientSecret leeway now
  | .enter party => .enter (ofParty party)
  | .close party => .close (ofParty party)

def ofTurn (turn : Turn) : Effect := ⟨turn.result, turn.sent, turn.log, ofSession turn.session⟩

section Sessions
variable {settings : Settings}

theorem through_ofSession {turnOf : Session → Turn} (session : Session) (party : Party) :
    (ofSession session).through? (ofParty party) turnOf =
      some ⟨(turnOf { session with creator := .connection }).result,
        (turnOf { session with creator := .connection }).sent,
        (turnOf { session with creator := .connection }).log,
        { ofSession session with
          connections := [(turnOf { session with creator := .connection }).session.connection]
          ids := (turnOf { session with creator := .connection }).session.ids }⟩ := by
  refine through_iff.mpr ⟨0, session.connection, ?_, rfl, rfl⟩
  cases party <;> rfl

variable [Platform]

-- Who made the connection matters to a close alone.
theorem step_ofSession (session : Session) (caller : Party) (action : Action) :
    (ofSession session).step? settings (ofAction caller action) =
      some (ofTurn (session.step settings action)) := by
  cases action with
  | perform operation exchange elapsed =>
      simp only [step?, ofAction, Session.step]
      rw [through_ofSession]
      simp only [Session.perform]
      split <;> rfl
  | decodeIdToken token clientId clientSecret leeway now =>
      simp only [step?, ofAction, Session.step]
      rw [through_ofSession]
      simp only [Session.decodeIdToken, Session.issuer]
      split <;> rfl
  | enter party =>
      simp only [step?, ofAction]
      rw [through_ofSession]
      rfl
  | close party =>
      have closing : (ofSession session).closes (ofParty party) =
          decide (party = .connection ∨ party = session.creator) := by
        cases party <;> simp [closes, ofParty, ofSession, eq_comm]
      simp only [step?, ofAction]
      rw [through_ofSession, closing]
      by_cases owner : party = .connection ∨ party = session.creator
      · simp [owner, closeTurn, ofTurn, ofSession, Session.step, Session.close, Session.answer]
      · simp [owner, closeTurn, ofTurn, ofSession, Session.step, Session.close, Session.answer]

theorem after_ofSession (session : Session) (caller : Party) (history : List Action) :
    (ofSession session).after? settings (history.map (ofAction caller)) =
      some (ofSession (session.after settings history)) := by
  induction history generalizing session with
  | nil => rfl
  | cons action rest ih =>
      simp only [List.map_cons, after?, step_ofSession, bind, Option.bind_some]
      exact ih _

end Sessions

end Holdings

end TenantApi
