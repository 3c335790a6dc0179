import TenantApi.Correlation

/-!
How scopes are kept. One binding holds the current id. Putting an id in gives out a mark of what was
there before, and the mark brings that back, once. An open scope keeps the mark of its own entry;
when it is left the mark is used, and only then goes on what was raised in the scope.
-/

namespace TenantApi.Correlation

/-- What brings back the contents of the binding from before one entry. -/
structure Mark where
  number : Nat
  before : Option String
  deriving DecidableEq, Repr

structure Binding where
  /-- Nothing stands for the empty text. -/
  bound : Option String
  /-- How many marks were given out. -/
  marks : Nat
  spent : List Nat
  deriving DecidableEq, Repr

inductive Fault where
  /-- A mark that was used already. -/
  | spentMark
  deriving DecidableEq, Repr

def Binding.read (binding : Binding) : String := binding.bound.getD ""

def Binding.set (binding : Binding) (id : String) : Mark × Binding :=
  (⟨binding.marks, binding.bound⟩,
    { binding with bound := some id, marks := binding.marks + 1 })

def Binding.reset (binding : Binding) (mark : Mark) : Except Fault Binding :=
  if mark.number ∈ binding.spent then .error .spentMark
  else .ok { binding with bound := mark.before, spent := mark.number :: binding.spent }

structure OpenScope where
  id : String
  mark : Mark
  deriving DecidableEq, Repr

structure Scopes where
  binding : Binding
  /-- The innermost first. -/
  opened : List OpenScope
  /-- How many fresh ids were drawn. -/
  drawn : Nat
  deriving DecidableEq, Repr

namespace Scopes

variable [Platform]

def untouched : Scopes := ⟨⟨none, 0, []⟩, [], 0⟩

def current (scopes : Scopes) : String := scopes.binding.read

def draw (scopes : Scopes) : String × Scopes :=
  (Platform.freshId (scopes.drawn + 1), { scopes with drawn := scopes.drawn + 1 })

def choose (scopes : Scopes) (given : Option String) : String × Scopes :=
  match given with
  | some id => if id = "" then scopes.draw else (id, scopes)
  | none => scopes.draw

def enter (scopes : Scopes) (given : Option String) : String × Scopes :=
  let (id, scopes) := scopes.choose given
  let (mark, binding) := scopes.binding.set id
  (id, { scopes with binding, opened := ⟨id, mark⟩ :: scopes.opened })

/-- Leaves the innermost scope; what was raised in it goes on once its mark is used. -/
def leave (scopes : Scopes) (raised : Option String) : Except Fault (Option String × Scopes) :=
  match scopes.opened with
  | [] => .ok (raised, scopes)
  | scope :: outer => do
      let binding ← scopes.binding.reset scope.mark
      .ok (raised, { scopes with binding, opened := outer })

def step (scopes : Scopes) : Step → Except Fault (Scopes × Shown)
  | .enter given =>
      let (id, scopes) := scopes.enter given
      .ok (scopes, .entered id scopes.current)
  | .exit => do
      let (_, scopes) ← scopes.leave none
      .ok (scopes, .id scopes.current)
  | .fail text => do
      let (raised, scopes) ← scopes.leave (some text)
      .ok (scopes, .failed raised.isNone scopes.current)
  | .read => .ok (scopes, .id scopes.current)
  | .draw =>
      let (id, scopes) := scopes.draw
      .ok (scopes, .id id)

def run (scopes : Scopes) : List Step → Except Fault (Scopes × List Shown)
  | [] => .ok (scopes, [])
  | step :: rest => do
      let (scopes, shown) ← scopes.step step
      let (scopes, more) ← scopes.run rest
      .ok (scopes, shown :: more)

end Scopes

end TenantApi.Correlation
