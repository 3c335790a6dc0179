import TenantApi.Platform

/-!
Correlation ids. Every call runs in a scope with an id, and the records of the call carry it. Scopes
nest like brackets: the current id is that of the innermost open scope, and leaving one, however it
is left, brings back the id from before. Fresh ids come from the platform, no two of them equal.
-/

namespace TenantApi

structure Correlation where
  /-- How many fresh ids were drawn. -/
  drawn : Nat
  /-- The ids of the open scopes, the innermost first. -/
  scopes : List String
  deriving DecidableEq, Repr

namespace Correlation

variable [Platform]

def idle : Correlation := ⟨0, []⟩

def current (ids : Correlation) : String := ids.scopes.head?.getD ""

def draw (ids : Correlation) : String × Correlation :=
  (Platform.freshId (ids.drawn + 1), { ids with drawn := ids.drawn + 1 })

def enter (ids : Correlation) (given : Option String) : Correlation :=
  match given with
  | some id =>
      if id = "" then
        let (fresh, ids) := ids.draw
        { ids with scopes := fresh :: ids.scopes }
      else { ids with scopes := id :: ids.scopes }
  | none =>
      let (fresh, ids) := ids.draw
      { ids with scopes := fresh :: ids.scopes }

def leave (ids : Correlation) : Correlation := { ids with scopes := ids.scopes.tail }

/-- What can happen to scopes. A scope is left by a failure in the same way as by an answer. -/
inductive Step where
  | enter (given : Option String)
  | exit
  | fail (text : String)
  | read
  | draw
  deriving DecidableEq, Repr

inductive Shown where
  /-- The id of the scope that was entered, and the current one. -/
  | entered (id current : String)
  | id (id : String)
  /-- Whether the failure was swallowed, and the current id. -/
  | failed (isSwallowed : Bool) (current : String)
  deriving DecidableEq, Repr

def step (ids : Correlation) : Step → Correlation × Shown
  | .enter given =>
      let ids := ids.enter given
      (ids, .entered ids.current ids.current)
  | .exit => (ids.leave, .id ids.leave.current)
  | .fail _ => (ids.leave, .failed false ids.leave.current)
  | .read => (ids, .id ids.current)
  | .draw => (ids.draw.2, .id ids.draw.1)

def run (ids : Correlation) : List Step → Correlation × List Shown
  | [] => (ids, [])
  | step :: rest =>
      let (ids, shown) := ids.step step
      let (ids, more) := ids.run rest
      (ids, shown :: more)

end Correlation

end TenantApi
