import TenantApi.Proofs.CallOutcome

/-!
The ids of calls. Every call whose arguments are accepted draws an id of its own, all that it sends
and logs carries that id, and no two calls of a run have the same. Whatever a call comes to, it
leaves the scopes that were open around it as they were.
-/

namespace TenantApi

namespace Session

variable [Platform]

def callId? (session : Session) : Action → Option String
  | .perform operation _ _ =>
      match operation.call with
      | .ok _ => some session.nextId
      | .error _ => none
  | _ => none

def callIds (settings : Settings) (session : Session) : List Action → List String
  | [] => []
  | action :: rest =>
      (session.callId? action).toList ++
        callIds settings (session.step settings action).session rest

variable {settings : Settings} {session : Session} {history : List Action} {id : String}

-- A scope is entered and left again, so that all that remains of it is that an id was drawn.
theorem step_ids (action : Action) : (session.step settings action).session.ids =
    { session.ids with
      drawn := session.ids.drawn + (session.callId? action).toList.length } := by
  cases action with
  | perform operation exchange elapsed =>
      simp only [step, callId?]
      cases called : operation.call with
      | error fault =>
          rw [perform_refused called]
          rfl
      | ok call =>
          rw [perform_called called]
          rfl
  | decodeIdToken token clientId clientSecret leeway now =>
      simp only [step, decodeIdToken]
      split <;> rfl
  | enter party => rfl
  | close party =>
      simp only [step, close, answer]
      split <;> rfl

theorem after_scopes (history : List Action) :
    (session.after settings history).ids.scopes = session.ids.scopes := by
  induction history generalizing session with
  | nil => rfl
  | cons action rest ih => rw [after, ih, step_ids]

theorem callIds_append (before later : List Action) :
    session.callIds settings (before ++ later) =
      session.callIds settings before ++
        (session.after settings before).callIds settings later := by
  induction before generalizing session with
  | nil => rfl
  | cons action rest ih => rw [List.cons_append, callIds, callIds, ih, List.append_assoc, after]

theorem callId_next {action : Action} (drawn : session.callId? action = some id) :
    id = Platform.freshId (session.ids.drawn + 1) := by
  cases action with
  | perform operation exchange elapsed =>
      simp only [callId?] at drawn
      split at drawn
      case h_1 => exact (Option.some.inj drawn).symm
      case h_2 => contradiction
  | decodeIdToken => contradiction
  | enter => contradiction
  | close => contradiction

-- The ids of a run are numbered beyond all that were drawn before it.
theorem callIds_later (member : id ∈ session.callIds settings history) :
    ∃ n, session.ids.drawn < n ∧ id = Platform.freshId n := by
  induction history generalizing session with
  | nil => contradiction
  | cons action rest ih =>
      rw [callIds, List.mem_append, Option.mem_toList] at member
      rcases member with here | later
      · exact ⟨_, Nat.lt_succ_self _, callId_next here⟩
      · obtain ⟨n, after, same⟩ := ih later
        rw [step_ids] at after
        exact ⟨n, by simp only at after; omega, same⟩

theorem callIds_nodup (history : List Action) : (session.callIds settings history).Nodup := by
  induction history generalizing session with
  | nil => exact List.nodup_nil
  | cons action rest ih =>
      rw [callIds]
      cases drawn : session.callId? action with
      | none => exact ih
      | some id =>
          refine List.nodup_cons.mpr ⟨fun again => ?_, ih⟩
          obtain ⟨n, after, same⟩ := callIds_later again
          rw [callId_next drawn] at same
          rw [step_ids, drawn] at after
          have number := Platform.freshId_injective same
          simp only [Option.toList_some, List.length_singleton] at after
          omega

theorem callId_fresh {action : Action} (history : List Action)
    (drawn : (session.after settings history).callId? action = some id) :
    id ∉ session.callIds settings history := by
  have distinct : (session.callIds settings (history ++ [action])).Nodup :=
    callIds_nodup (history ++ [action])
  rw [callIds_append, callIds, drawn] at distinct
  intro earlier
  exact (List.nodup_append.mp distinct).2.2 id earlier id (by simp) rfl

end Session

end TenantApi
