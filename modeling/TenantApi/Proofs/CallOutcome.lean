import TenantApi.Proofs.QuotaRefusal

/-!
What a call comes to, case by case. A call with refused arguments does nothing at all. Every other
call draws an id and leaves its scope again; it ends before anything is sent when its request cannot
be made or the connection is closed, and otherwise one request is sent, whatever happens to that.
-/

namespace TenantApi

namespace Correlation

variable [Platform] (ids : Correlation)

theorem enter_current : (ids.enter none).current = Platform.freshId (ids.drawn + 1) := rfl

theorem enter_leave : (ids.enter none).leave = { ids with drawn := ids.drawn + 1 } := rfl

end Correlation

namespace Session

variable [Platform]

def nextId (session : Session) : String := Platform.freshId (session.ids.drawn + 1)

def past (session : Session) (connection : Connection) : Session :=
  { session with
    connection
    ids := { session.ids with drawn := session.ids.drawn + 1 } }

variable {session : Session} {operation : Operation} {exchange : Exchange} {elapsed : Float}
  {call : Call} {request : Request}

theorem perform_refused {fault : Argument.Fault} (refused : operation.call = .error fault) :
    session.perform operation exchange elapsed = session.answer (.error (.argument fault)) := by
  simp only [perform, refused]

theorem perform_called (called : operation.call = .ok call) :
    session.perform operation exchange elapsed =
      let outcome := session.connection.send session.nextId call exchange elapsed
      ⟨outcome.result.bind operation.shape.read, outcome.sent, outcome.log,
        session.past outcome.connection⟩ := by
  simp only [perform, called, Session.exchange, Correlation.enter_current, Correlation.enter_leave]
  rfl

theorem perform_unmade {fault : Request.Fault} (called : operation.call = .ok call)
    (unmade : Request.ofCall session.connection.base session.connection.fields call =
      .error fault) :
    session.perform operation exchange elapsed =
      ⟨.error (.request fault), [], [], session.past session.connection⟩ := by
  rw [perform_called called]
  simp only [Connection.send, unmade]
  rfl

theorem perform_closed (called : operation.call = .ok call)
    (made : Request.ofCall session.connection.base session.connection.fields call = .ok request)
    (closed : session.connection.isClosed = true) :
    session.perform operation exchange elapsed =
      ⟨.error .closed, [], [], session.past session.connection⟩ := by
  rw [perform_called called]
  simp only [Connection.send, made, closed, ↓reduceIte]
  rfl

section Sending
variable (sends : session.Sends operation call request)
include sends

theorem perform_broken {kind message : String} :
    session.perform operation (.broken kind message) elapsed =
      ⟨.error (.transport kind message), [⟨request.withCredentials, session.nextId⟩], [],
        session.past session.connection⟩ := by
  obtain ⟨called, made, opened⟩ := sends
  rw [perform_called called]
  simp only [Connection.send, made, opened, Bool.false_eq_true, ↓reduceIte]
  rfl

theorem perform_answered {response : Response} :
    session.perform operation (.answered response) elapsed =
      ⟨(session.connection.receive session.nextId call request.withCredentials response
          elapsed).result.bind operation.shape.read,
        [⟨request.withCredentials, session.nextId⟩],
        (session.connection.receive session.nextId call request.withCredentials response
          elapsed).log,
        session.past (session.connection.receive session.nextId call request.withCredentials
          response elapsed).connection⟩ := by
  obtain ⟨called, made, opened⟩ := sends
  rw [perform_called called]
  simp only [Connection.send, made, opened, Bool.false_eq_true, ↓reduceIte,
    Connection.receive_sent]

-- Whatever becomes of it: one request is sent, and no second one follows.
theorem perform_sends :
    (session.perform operation exchange elapsed).sent =
      [⟨request.withCredentials, session.nextId⟩] := by
  cases exchange with
  | broken kind message => rw [perform_broken sends]
  | answered response => rw [perform_answered sends]

end Sending

theorem sends_of_sent {sent : Sent}
    (member : sent ∈ (session.perform operation exchange elapsed).sent) :
    ∃ call request, session.Sends operation call request := by
  cases called : operation.call with
  | error fault =>
      rw [perform_refused called] at member
      contradiction
  | ok call =>
      cases made : Request.ofCall session.connection.base session.connection.fields call with
      | error fault =>
          rw [perform_unmade called made] at member
          contradiction
      | ok request =>
          cases closed : session.connection.isClosed with
          | true =>
              rw [perform_closed called made closed] at member
              contradiction
          | false => exact ⟨call, request, called, made, closed⟩

def isReady (made : Except Failure Session) (operation : Operation) (kind : Request → Bool) :
    Bool :=
  made.toOption.any fun session => !session.connection.isClosed &&
    operation.call.toOption.any fun call =>
      (Request.ofCall session.connection.base session.connection.fields call).toOption.any kind

theorem sends_of_ready {made : Except Failure Session} {kind : Request → Bool}
    (ready : isReady made operation kind = true) :
    ∃ (session : Session) (call : Call) (request : Request),
      made = .ok session ∧ session.Sends operation call request ∧ kind request = true := by
  simp only [isReady, Option.any_eq_true, Bool.and_eq_true, Bool.not_eq_true',
    Fallible.toOption_some] at ready
  obtain ⟨session, built, opened, call, called, request, formed, fits⟩ := ready
  exact ⟨session, call, request, built, ⟨called, formed, opened⟩, fits⟩

end Session

end TenantApi
