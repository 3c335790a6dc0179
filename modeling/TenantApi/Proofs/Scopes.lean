import Mathlib.Data.List.Induction
import TenantApi.Correlation.Binding
import TenantApi.Platform.Stock

/-!
Scopes keep stack discipline. In every run the current id is that of the innermost scope that is
still open, which is the one since whose entry every other scope was left again, and outside of all
scopes it is the empty text. No mark is ever used twice, so leaving a scope never fails; it brings
back the id from before its entry, whether or not something was raised, and what was raised goes on.
-/

namespace TenantApi.Correlation

/-! ## Runs that leave the scopes they enter -/

inductive Quiet : Step → Prop where
  | read : Quiet .read
  | draw : Quiet .draw

inductive Leaving : Step → Prop where
  | exit : Leaving .exit
  | fail (text : String) : Leaving (.fail text)

inductive Balanced : List Step → Prop where
  | nil : Balanced []
  | quiet {step : Step} {rest : List Step} (still : Quiet step) (tail : Balanced rest) :
      Balanced (step :: rest)
  | scope {given : Option String} {inner rest : List Step} {leaving : Step}
      (body : Balanced inner) (left : Leaving leaving) (tail : Balanced rest) :
      Balanced (.enter given :: (inner ++ leaving :: rest))

/-- The innermost scope that is open after a history is the one entered after `before`. -/
def Innermost (history before : List Step) (given : Option String) : Prop :=
  ∃ inner, history = before ++ .enter given :: inner ∧ Balanced inner

inductive Named [Platform] (drawn : Nat) : Option String → String → Prop where
  | given {id : String} (set : id ≠ "") : Named drawn (some id) id
  | absent : Named drawn none (Platform.freshId (drawn + 1))
  | empty : Named drawn (some "") (Platform.freshId (drawn + 1))

def Step.draws : Step → Bool
  | .enter given => given.getD "" = ""
  | .draw => true
  | .exit | .fail _ | .read => false

def drawnBy (history : List Step) : Nat := history.countP Step.draws

section Plain
variable {ids : Correlation} {history before inner more : List Step} {given : Option String}

theorem Balanced.append (front : Balanced inner) (back : Balanced more) :
    Balanced (inner ++ more) := by
  induction front with
  | nil => exact back
  | quiet still _ ih => exact .quiet still ih
  | scope body left _ _ ih =>
      rw [List.cons_append, List.append_assoc, List.cons_append]
      exact .scope body left ih

/-- The open scopes of a history, each with what led up to its entry. -/
inductive Layers : List Step → List String → Prop where
  | outside (history : List Step) : Layers history []
  | inside {before inner : List Step} {given : Option String} {id : String} {outer : List String}
      (around : Layers before outer) (body : Balanced inner) :
      Layers (before ++ .enter given :: inner) (id :: outer)

theorem Layers.extend {scopes : List String} (layers : Layers before scopes)
    (balanced : Balanced more) : Layers (before ++ more) scopes := by
  cases layers with
  | outside => exact .outside _
  | inside around body =>
      rw [List.append_assoc, List.cons_append]
      exact .inside around (body.append balanced)

-- Leaving a scope makes its whole time a balanced part of the scope around it.
theorem Layers.tail {scopes : List String} {leaving : Step} (layers : Layers history scopes)
    (left : Leaving leaving) : Layers (history ++ [leaving]) scopes.tail := by
  cases layers with
  | outside => exact .outside _
  | inside around body =>
      rw [List.append_assoc, List.cons_append]
      exact around.extend (.scope body left .nil)

variable [Platform]

theorem run_append (ids : Correlation) (front back : List Step) :
    ids.run (front ++ back) =
      (((ids.run front).1.run back).1, (ids.run front).2 ++ ((ids.run front).1.run back).2) := by
  induction front generalizing ids with
  | nil => rfl
  | cons step rest ih => simp only [List.cons_append, run, ih]

theorem enter_scopes (ids : Correlation) (given : Option String) :
    ∃ id, Named ids.drawn given id ∧
      ids.enter given = ⟨ids.drawn + [Step.enter given].countP Step.draws, id :: ids.scopes⟩ := by
  cases given with
  | none => exact ⟨_, .absent, rfl⟩
  | some id =>
      by_cases empty : id = ""
      · subst empty
        exact ⟨_, .empty, rfl⟩
      · refine ⟨id, .given empty, ?_⟩
        simp [enter, Step.draws, empty]

theorem step_drawn (ids : Correlation) (step : Step) :
    (ids.step step).1.drawn = ids.drawn + [step].countP Step.draws := by
  cases step with
  | enter given =>
      obtain ⟨id, _, entered⟩ := enter_scopes ids given
      rw [Correlation.step, entered]
  | exit => rfl
  | fail text => rfl
  | read => rfl
  | draw => rfl

theorem run_drawn (ids : Correlation) (history : List Step) :
    (ids.run history).1.drawn = ids.drawn + drawnBy history := by
  induction history generalizing ids with
  | nil => rfl
  | cons step rest ih =>
      simp only [run, ih, step_drawn, drawnBy, List.countP_cons, List.countP_nil]
      omega

theorem balanced_scopes (balanced : Balanced inner) (ids : Correlation) :
    (ids.run inner).1.scopes = ids.scopes := by
  induction balanced generalizing ids with
  | nil => rfl
  | quiet still _ ih =>
      rw [run, ih]
      cases still <;> rfl
  | @scope given inner rest leaving _ left _ body tail =>
      obtain ⟨id, _, entered⟩ := enter_scopes ids given
      have within : ((ids.enter given).run inner).1.scopes.tail = ids.scopes := by
        rw [body, entered]
        rfl
      have closed : (((ids.enter given).run inner).1.step leaving).1.scopes = ids.scopes := by
        cases left <;> exact within
      simp only [run, run_append, tail, Correlation.step]
      exact closed

theorem run_layers (history : List Step) : Layers history (idle.run history).1.scopes := by
  induction history using List.reverseRecOn with
  | nil => exact .outside []
  | append_singleton before step ih =>
      rw [run_append]
      cases step with
      | enter given =>
          obtain ⟨id, _, entered⟩ := enter_scopes (idle.run before).1 given
          simp only [run, Correlation.step, entered]
          exact .inside ih .nil
      | exit => exact ih.tail .exit
      | fail text => exact ih.tail (.fail text)
      | read => exact ih.extend (.quiet .read .nil)
      | draw => exact ih.extend (.quiet .draw .nil)

end Plain

/-! ## Marks and what they bring back -/

/-- What is bound, told by the open scopes: the id of the innermost, and under it what its mark
brings back. -/
inductive Linked : Option String → List OpenScope → Prop where
  | outside : Linked none []
  | inside {scope : OpenScope} {outer : List OpenScope} (around : Linked scope.mark.before outer) :
      Linked (some scope.id) (scope :: outer)

/-- The marks of the open scopes were given out one after another and are not used yet. -/
structure Sound (scopes : Scopes) : Prop where
  linked : Linked scopes.binding.bound scopes.opened
  distinct : (scopes.opened.map fun scope => scope.mark.number).Nodup
  unspent : ∀ scope ∈ scopes.opened, scope.mark.number ∉ scopes.binding.spent
  given : ∀ scope ∈ scopes.opened, scope.mark.number < scopes.binding.marks
  spent : ∀ number ∈ scopes.binding.spent, number < scopes.binding.marks

def Scopes.plain (scopes : Scopes) : Correlation :=
  ⟨scopes.drawn, scopes.opened.map OpenScope.id⟩

section Kept
variable {scopes : Scopes}

theorem sound_untouched : Sound .untouched where
  linked := .outside
  distinct := List.nodup_nil
  unspent := by simp [Scopes.untouched]
  given := by simp [Scopes.untouched]
  spent := by simp [Scopes.untouched]

theorem current_plain (sound : Sound scopes) : scopes.current = scopes.plain.current := by
  have linked := sound.linked
  unfold Scopes.current Binding.read Correlation.current Scopes.plain
  generalize scopes.binding.bound = held at linked
  generalize scopes.opened = opened at linked
  cases linked <;> rfl

-- The mark of the innermost scope is not used yet, and the others are not the same one.
theorem leave_sound (sound : Sound scopes) (raised : Option String) :
    ∃ next, scopes.leave raised = .ok (raised, next) ∧ Sound next ∧
      next.plain = scopes.plain.leave := by
  obtain ⟨⟨held, marks, spent⟩, opened, drawn⟩ := scopes
  cases opened with
  | nil => exact ⟨_, rfl, sound, rfl⟩
  | cons scope outer =>
      have around : Linked scope.mark.before outer := by
        cases sound.linked with
        | inside around => exact around
      obtain ⟨fresh, unspent⟩ := List.forall_mem_cons.mp sound.unspent
      obtain ⟨known, given⟩ := List.forall_mem_cons.mp sound.given
      obtain ⟨apart, distinct⟩ := List.nodup_cons.mp sound.distinct
      refine ⟨⟨⟨scope.mark.before, marks, scope.mark.number :: spent⟩, outer, drawn⟩, ?_,
        ⟨around, distinct, ?_, given, List.forall_mem_cons.mpr ⟨known, sound.spent⟩⟩, rfl⟩
      · simp only [Scopes.leave, Binding.reset, if_neg fresh]
        rfl
      · intro other member used
        rcases List.mem_cons.mp used with same | earlier
        · exact apart (List.mem_map.mpr ⟨other, member, same⟩)
        · exact unspent other member earlier

variable [Platform]

theorem choose_plain (scopes : Scopes) (given : Option String) :
    ∃ id drawn, scopes.choose given = (id, { scopes with drawn }) ∧
      scopes.plain.enter given = ⟨drawn, id :: scopes.plain.scopes⟩ := by
  cases given with
  | none => exact ⟨_, _, rfl, rfl⟩
  | some id =>
      by_cases empty : id = ""
      · subst empty
        exact ⟨_, _, rfl, rfl⟩
      · refine ⟨id, scopes.drawn, ?_, ?_⟩
        · simp [Scopes.choose, empty]
        · simp [Correlation.enter, Scopes.plain, empty]

theorem sound_enter (sound : Sound scopes) (given : Option String) :
    Sound (scopes.enter given).2 ∧ (scopes.enter given).2.plain = scopes.plain.enter given ∧
      (scopes.enter given).1 = (scopes.enter given).2.current := by
  obtain ⟨id, drawn, chosen, entered⟩ := choose_plain scopes given
  let scope : OpenScope := ⟨id, ⟨scopes.binding.marks, scopes.binding.bound⟩⟩
  have linked : Linked (some scope.id) (scope :: scopes.opened) := .inside sound.linked
  rw [Scopes.enter, chosen, entered]
  refine ⟨⟨linked, ?_, ?_, ?_, ?_⟩, rfl, rfl⟩
  · refine List.nodup_cons.mpr ⟨fun again => ?_, sound.distinct⟩
    obtain ⟨scope, member, same⟩ := List.mem_map.mp again
    exact absurd same (Nat.ne_of_lt (sound.given scope member))
  · exact List.forall_mem_cons.mpr
      ⟨fun used => absurd (sound.spent _ used) (Nat.lt_irrefl _), sound.unspent⟩
  · exact List.forall_mem_cons.mpr
      ⟨Nat.lt_succ_self _, fun scope member => Nat.lt_succ_of_lt (sound.given scope member)⟩
  · exact fun number used => Nat.lt_succ_of_lt (sound.spent number used)

/-- A step of the scopes is one of the plain view, and never fails. -/
theorem step_sound (sound : Sound scopes) (step : Step) :
    ∃ next, scopes.step step = .ok (next, (scopes.plain.step step).2) ∧ Sound next ∧
      next.plain = (scopes.plain.step step).1 := by
  cases step with
  | enter given =>
      obtain ⟨after, plain, same⟩ := sound_enter sound given
      refine ⟨_, ?_, after, plain⟩
      simp only [Scopes.step, Correlation.step, ← plain, ← current_plain after, same]
  | exit =>
      obtain ⟨next, left, after, plain⟩ := leave_sound sound none
      refine ⟨next, ?_, after, plain⟩
      simp only [Scopes.step, left, Correlation.step, ← plain, ← current_plain after]
      rfl
  | fail text =>
      obtain ⟨next, left, after, plain⟩ := leave_sound sound (some text)
      refine ⟨next, ?_, after, plain⟩
      simp only [Scopes.step, left, Correlation.step, ← plain, ← current_plain after]
      rfl
  | read =>
      refine ⟨scopes, ?_, sound, rfl⟩
      simp only [Scopes.step, Correlation.step, current_plain sound]
  | draw =>
      have kept : Sound scopes.draw.2 :=
        ⟨sound.linked, sound.distinct, sound.unspent, sound.given, sound.spent⟩
      exact ⟨_, rfl, kept, rfl⟩

theorem run_cons {middle next : Scopes} {step : Step} {rest : List Step} {shown : Shown}
    {more : List Shown} (stepped : scopes.step step = .ok (middle, shown))
    (ran : middle.run rest = .ok (next, more)) :
    scopes.run (step :: rest) = .ok (next, shown :: more) := by
  rw [Scopes.run, stepped]
  change (middle.run rest >>= _) = _
  rw [ran]
  rfl

theorem run_sound (sound : Sound scopes) (history : List Step) :
    ∃ next, scopes.run history = .ok (next, (scopes.plain.run history).2) ∧ Sound next ∧
      next.plain = (scopes.plain.run history).1 := by
  induction history generalizing scopes with
  | nil => exact ⟨scopes, rfl, sound, rfl⟩
  | cons step rest ih =>
      obtain ⟨middle, stepped, between, plain⟩ := step_sound sound step
      obtain ⟨next, ran, after, seen⟩ := ih between
      rw [plain] at ran seen
      exact ⟨next, run_cons stepped ran, after, seen⟩

end Kept

/-! ## Discipline -/

inductive Shows [Platform] (drawn : Nat) (scopes : Scopes) : Step → Shown → Prop where
  | entered (given : Option String) : Shows drawn scopes (.enter given)
      (.entered scopes.current scopes.current)
  | left : Shows drawn scopes .exit (.id scopes.current)
  /-- What was raised is not swallowed. -/
  | raised (text : String) : Shows drawn scopes (.fail text) (.failed false scopes.current)
  | read : Shows drawn scopes .read (.id scopes.current)
  | drew : Shows drawn scopes .draw (.id (Platform.freshId drawn))

/-- Stack discipline at the end of a history, and at each point on the way what was shown there. -/
structure Disciplined [Platform] (history : List Step) (scopes : Scopes) (shown : List Shown) :
    Prop where
  inside : ∀ before given, Innermost history before given →
    ∃ id, Named (drawnBy before) given id ∧ id ≠ "" ∧
      shown[before.length]? = some (.entered id id) ∧ scopes.current = id
  outside : (¬∃ before given, Innermost history before given) → scopes.current = ""
  restored : ∀ before given inner leaving,
    history = before ++ .enter given :: (inner ++ [leaving]) → Balanced inner → Leaving leaving →
      ∃ earlier answers, Scopes.untouched.run before = .ok (earlier, answers) ∧
        scopes.current = earlier.current
  showing : ∀ before step later, history = before ++ step :: later →
    ∃ point answers answer, Scopes.untouched.run (before ++ [step]) = .ok (point, answers) ∧
      shown[before.length]? = some answer ∧ Shows (drawnBy (before ++ [step])) point step answer

section Runs
variable [Platform] {before inner later : List Step} {given : Option String}

theorem Named.ne_empty {drawn : Nat} {id : String} (named : Named drawn given id) : id ≠ "" := by
  cases named with
  | given set => exact set
  | absent => exact Platform.freshId_ne_empty _
  | empty => exact Platform.freshId_ne_empty _

theorem length_shown (ids : Correlation) (history : List Step) :
    (ids.run history).2.length = history.length := by
  induction history generalizing ids with
  | nil => rfl
  | cons step rest ih => simp [run, ih]

theorem shown_at (ids : Correlation) (before : List Step) (step : Step) (later : List Step) :
    (ids.run (before ++ step :: later)).2[before.length]? =
      some ((ids.run before).1.step step).2 := by
  simp [run_append, ← length_shown ids before, run]

theorem run_inside (body : Balanced inner) (before : List Step) (given : Option String) :
    ∃ id, Named (drawnBy before) given id ∧
      (idle.run (before ++ .enter given :: inner)).1.scopes =
        id :: (idle.run before).1.scopes ∧
      (idle.run (before ++ .enter given :: inner)).2[before.length]? = some (.entered id id) := by
  obtain ⟨id, named, entered⟩ := enter_scopes (idle.run before).1 given
  rw [run_drawn] at named
  refine ⟨id, by simpa [idle] using named, ?_, ?_⟩
  · simp only [run_append, run, Correlation.step, balanced_scopes body, entered]
  · rw [shown_at, Correlation.step, entered]
    rfl

theorem run_untouched (history : List Step) :
    ∃ scopes, Scopes.untouched.run history = .ok (scopes, (idle.run history).2) ∧
      scopes.current = (idle.run history).1.current := by
  obtain ⟨scopes, ran, sound, plain⟩ := run_sound sound_untouched history
  exact ⟨scopes, ran, by rw [current_plain sound, plain]; rfl⟩

theorem step_shows {point : Scopes} (before : List Step) (step : Step)
    (seen : point.current = ((idle.run before).1.step step).1.current) :
    Shows (drawnBy (before ++ [step])) point step ((idle.run before).1.step step).2 := by
  cases step with
  | enter given =>
      have shown : ((idle.run before).1.step (.enter given)).2 =
          .entered point.current point.current := by rw [seen]; rfl
      rw [shown]
      exact .entered given
  | exit =>
      have shown : ((idle.run before).1.step .exit).2 = .id point.current := by rw [seen]; rfl
      rw [shown]
      exact .left
  | fail text =>
      have shown : ((idle.run before).1.step (.fail text)).2 = .failed false point.current := by
        rw [seen]
        rfl
      rw [shown]
      exact .raised text
  | read =>
      have shown : ((idle.run before).1.step .read).2 = .id point.current := by rw [seen]; rfl
      rw [shown]
      exact .read
  | draw =>
      have number : drawnBy (before ++ [.draw]) = (idle.run before).1.drawn + 1 := by
        rw [run_drawn, drawnBy, List.countP_append]
        simp [idle, Step.draws, drawnBy]
      rw [number]
      exact .drew

/-- Every run of scopes succeeds and keeps to the discipline of a stack. -/
theorem scopes_disciplined (history : List Step) :
    ∃ scopes, Scopes.untouched.run history = .ok (scopes, (idle.run history).2) ∧
      Disciplined history scopes (idle.run history).2 := by
  obtain ⟨scopes, ran, current⟩ := run_untouched history
  refine ⟨scopes, ran, ?_, ?_, ?_, ?_⟩
  · rintro before given ⟨inner, rfl, body⟩
    obtain ⟨id, named, opened, shown⟩ := run_inside body before given
    refine ⟨id, named, named.ne_empty, shown, ?_⟩
    rw [current, Correlation.current, opened]
    rfl
  · intro none
    have layers := run_layers history
    rw [current, Correlation.current]
    generalize (idle.run history).1.scopes = opened at layers
    cases layers with
    | outside => rfl
    | inside _ body => exact absurd ⟨_, _, _, rfl, body⟩ none
  · rintro before given inner leaving rfl body left
    obtain ⟨earlier, answered, seen⟩ := run_untouched before
    refine ⟨earlier, _, answered, ?_⟩
    have closed : Balanced (.enter given :: (inner ++ [leaving])) := .scope body left .nil
    rw [current, seen, run_append, Correlation.current, Correlation.current,
      balanced_scopes closed]
  · rintro before step later rfl
    obtain ⟨point, answered, seen⟩ := run_untouched (before ++ [step])
    refine ⟨point, _, _, answered, shown_at idle before step later, step_shows before step ?_⟩
    rw [seen, run_append]
    rfl

end Runs

section Trial
open scoped TenantApi.Stock

-- The inner scope has the id of the outer one, and something is raised in it.
theorem scopes_disciplined_reused :
    ∃ scopes shown,
      Scopes.untouched.run
          [.enter (some "x"), .draw, .enter none, .enter (some "x"), .fail "boom"] =
        .ok (scopes, shown) ∧
      scopes.current = Platform.freshId 2 ∧
      shown[2]? = some (.entered (Platform.freshId 2) (Platform.freshId 2)) ∧
      shown[4]? = some (.failed false (Platform.freshId 2)) := by
  obtain ⟨scopes, ran, disciplined⟩ := scopes_disciplined
    [.enter (some "x"), .draw, .enter none, .enter (some "x"), .fail "boom"]
  obtain ⟨id, named, _, entered, current⟩ := disciplined.inside [.enter (some "x"), .draw] none
    ⟨[.enter (some "x"), .fail "boom"], rfl, .scope .nil (.fail "boom") .nil⟩
  cases named
  obtain ⟨point, answers, answer, stepped, shown, shows⟩ :=
    disciplined.showing [.enter (some "x"), .draw, .enter none, .enter (some "x")] (.fail "boom") []
      rfl
  obtain ⟨same, _⟩ := Prod.mk.inj (Except.ok.inj (ran.symm.trans stepped))
  cases shows
  rw [← same, current] at shown
  exact ⟨scopes, _, ran, current, entered, shown⟩

end Trial

end TenantApi.Correlation
