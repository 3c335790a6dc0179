import TenantApi.Log.Setup
import TenantApi.Proofs.Keyed

/-!
Set-ups of the logger over whole runs. A set-up that succeeds leaves one handler, of the form and
with the level that were asked for, whatever set-ups came before it; one that fails leaves all as it
was, although it makes its changes one after another. The root of all loggers stays as it is.
-/

namespace TenantApi.Log

/-! ## What is asked for -/

inductive Chosen : Option String → String → String → Prop where
  | given {text setting : String} (set : text ≠ "") : Chosen (some text) setting text
  | absent (setting : String) : Chosen none setting setting
  | empty (setting : String) : Chosen (some "") setting setting

def IgnoringCase (text word : String) : Prop :=
  List.Forall₂ (fun c small => c = small ∨ c = small.toUpper) text.toList word.toList

inductive HasLevel (name : String) : Int → Prop where
  | listed {level : Int} (entry : (name, level) ∈ levels ++ levelSynonyms) : HasLevel name level
  | unknown (other : name ∉ (levels ++ levelSynonyms).map Prod.fst) : HasLevel name warning

section Asked
variable {name setting : String} {given : Option String}

theorem chosen_iff {text : String} :
    Chosen given setting text ↔ Settings.orSetting given setting = text := by
  constructor
  · intro chosen
    cases chosen with
    | given set => rw [Settings.orSetting, if_neg set]
    | absent => rfl
    | empty => rfl
  · rintro rfl
    cases given with
    | none => exact .absent setting
    | some text =>
        by_cases empty : text = ""
        · subst empty
          exact .empty setting
        · rw [Settings.orSetting, if_neg empty]
          exact .given empty

theorem toLower_iff {c small : Char} (letter : small ∈ ['j', 's', 'o', 'n']) :
    c.toLower = small ↔ c = small ∨ c = small.toUpper := by
  unfold Char.toLower
  split
  case isTrue capital =>
    have low : 65 ≤ c.toNat := capital.1
    have high : c.toNat ≤ 90 := capital.2
    fin_cases letter <;> simp [Char.ext_iff, ← UInt32.toNat_inj, UInt32.toNat_add] <;> omega
  case isFalse other =>
    fin_cases letter <;> simp <;> rintro rfl <;> exact absurd ⟨by decide, by decide⟩ other

-- Nothing beyond ASCII is lowered to a letter of the word.
theorem lowerChar_iff {c small : Char} (letter : small ∈ ['j', 's', 'o', 'n']) :
    Text.lowerChar c = small ↔ c = small ∨ c = small.toUpper := by
  unfold Text.lowerChar
  split
  case isTrue sign =>
    subst sign
    fin_cases letter <;> decide
  case isFalse => exact toLower_iff letter

theorem lower_iff {text word : List Char} (letters : ∀ small ∈ word, small ∈ ['j', 's', 'o', 'n']) :
    Text.lower text = word ↔
      List.Forall₂ (fun c small => c = small ∨ c = small.toUpper) text word := by
  induction text generalizing word with
  | nil => simp [Text.lower, eq_comm]
  | cons c rest ih =>
      cases word with
      | nil => simp [Text.lower]
      | cons small others =>
          obtain ⟨letter, after⟩ := List.forall_mem_cons.mp letters
          rw [List.forall₂_cons, ← lowerChar_iff letter, ← ih after]
          simp [Text.lower]

theorem styleOf_iff : styleOf name = .structured ↔ IgnoringCase name "json" := by
  have lowered : String.ofList (Text.lower name.toList) = "json" ↔ IgnoringCase name "json" := by
    rw [← String.toList_inj, String.toList_ofList, IgnoringCase]
    exact lower_iff (by simp)
  unfold styleOf
  split
  case isTrue same => simp [lowered.mp same]
  case isFalse other => simp [← lowered, other]

/-- The names, in capitals, that make a set-up fail. -/
theorem levelOf_error_iff : (∃ fault, levelOf name = .error fault) ↔
    String.ofList (Text.upper name.toList) ∈ reservedNames.map Prod.fst := by
  rw [← Keyed.lookup_isSome]
  simp only [levelOf]
  split
  case h_1 fault reserved => simp [reserved]
  case h_2 free => simp [free]

theorem levelOf_level {level : Int} (named : levelOf name = .ok level) :
    HasLevel (String.ofList (Text.upper name.toList)) level := by
  simp only [levelOf] at named
  split at named
  case h_1 => contradiction
  case h_2 =>
    cases named
    cases found : levelNamed? (String.ofList (Text.upper name.toList)) with
    | none =>
        refine .unknown fun listed => ?_
        rw [← Keyed.lookup_isSome, ← levelNamed?, found] at listed
        contradiction
    | some level => exact .listed (Keyed.lookup_mem found)

end Asked

/-! ## One set-up -/

section Step
variable {settings : Settings} {level format : Option String} {loggers : Loggers}

/-- The changes of a set-up, taken together. -/
theorem configure_run (settings : Settings) (level format : Option String) (loggers : Loggers) :
    (configure settings level format).run.run loggers =
      match setUp settings level format with
      | .error fault => (.error fault, loggers)
      | .ok logger => (.ok (), { loggers with own := logger }) := by
  unfold setUp configure setLevel
  cases levelOf (Settings.orSetting level settings.logLevel) with
  | error fault => rfl
  | ok number => rfl

end Step

/-! ## Runs -/

namespace Installation

def currentSettings (settings : Settings) (history : List Event) : Settings :=
  history.foldl (fun settings event => match event with
    | .settings other => other
    | .setUp _ _ => settings) settings

/-- What a set-up may leave behind: all as it was, or one handler of the form that was asked for. -/
inductive Leaves (settings : Settings) (level format : Option String) (before : Logger) :
    Except SetupFault Unit → Logger → Prop where
  | failed {fault : SetupFault} : Leaves settings level format before (.error fault) before
  | done {style : Style} {number : Int} {levelText formatText : String}
      (chosenLevel : Chosen level settings.logLevel levelText)
      (chosenFormat : Chosen format settings.logFormat formatText)
      (form : style = .structured ↔ IgnoringCase formatText "json")
      (severity : HasLevel (String.ofList (Text.upper levelText.toList)) number) :
      Leaves settings level format before (.ok ()) ⟨[style], number, false⟩

section Runs
variable {installation : Installation} {level format : Option String}

theorem setUp_leaves (installation : Installation) (level format : Option String) :
    Leaves installation.settings level format installation.loggers.own
        (installation.setUp level format).1 (installation.setUp level format).2.loggers.own ∧
      (installation.setUp level format).2.loggers.root = installation.loggers.root ∧
      (installation.setUp level format).2.settings = installation.settings := by
  have changes := configure_run installation.settings level format installation.loggers
  unfold setUp
  rw [changes]
  cases done : Log.setUp installation.settings level format with
  | error fault => exact ⟨.failed, rfl, rfl⟩
  | ok logger =>
      unfold Log.setUp at done
      split at done
      case h_1 => contradiction
      case h_2 number named =>
        cases done
        exact ⟨.done (chosen_iff.mpr rfl) (chosen_iff.mpr rfl) styleOf_iff (levelOf_level named),
          rfl, rfl⟩

theorem setUp_fails_iff (installation : Installation) (level format : Option String) :
    (∃ fault, (installation.setUp level format).1 = .error fault) ↔
      ∃ text, Chosen level installation.settings.logLevel text ∧
        String.ofList (Text.upper text.toList) ∈ ["BASIC_FORMAT", "_STYLES"] := by
  have changes := configure_run installation.settings level format installation.loggers
  have reserved : ["BASIC_FORMAT", "_STYLES"] = reservedNames.map Prod.fst := rfl
  simp only [chosen_iff, exists_eq_left', reserved, ← levelOf_error_iff]
  unfold setUp
  rw [changes, Log.setUp]
  cases levelOf (Settings.orSetting level installation.settings.logLevel) with
  | error fault => simp
  | ok number => simp

theorem step_root (event : Event) :
    (installation.step event).loggers.root = installation.loggers.root := by
  cases event with
  | settings other => rfl
  | setUp level format => exact (setUp_leaves installation level format).2.1

theorem run_root (history : List Event) :
    (installation.run history).loggers.root = installation.loggers.root := by
  induction history generalizing installation with
  | nil => rfl
  | cons event rest ih => exact ih.trans (step_root event)

theorem run_settings (history : List Event) :
    (installation.run history).settings = currentSettings installation.settings history := by
  induction history generalizing installation with
  | nil => rfl
  | cons event rest ih =>
      have tail : (installation.run (event :: rest)).settings =
          currentSettings (installation.step event).settings rest := ih
      rw [tail]
      cases event with
      | settings other => rfl
      | setUp level format => rw [step, (setUp_leaves installation level format).2.2]; rfl

/-- A logger before any set-up, or with the one handler of the last that succeeded. -/
def Settled (logger : Logger) : Prop :=
  logger = .bare ∨ ∃ style level, logger = ⟨[style], level, false⟩

theorem step_settled (settled : Settled installation.loggers.own) (event : Event) :
    Settled (installation.step event).loggers.own := by
  cases event with
  | settings other => exact settled
  | setUp level format =>
      have leaves := (setUp_leaves installation level format).1
      rw [step]
      generalize (installation.setUp level format).1 = result at leaves
      generalize (installation.setUp level format).2.loggers.own = after at leaves
      cases leaves with
      | failed => exact settled
      | done => exact .inr ⟨_, _, rfl⟩

theorem run_settled (settled : Settled installation.loggers.own) (history : List Event) :
    Settled (installation.run history).loggers.own := by
  induction history generalizing installation with
  | nil => exact settled
  | cons event rest ih => exact ih (step_settled settled event)

/-- Each set-up of a run, whatever came before it, leaves one handler and the level that was asked
for, or fails and leaves the logger alone; handlers never add up, and the root is never touched. -/
theorem set_up_over_runs (settings : Settings) (root : Logger) (history : List Event)
    (level format : Option String) :
    let before := (Installation.mk settings ⟨.bare, root⟩).run history
    let call := before.setUp level format
    Leaves (currentSettings settings history) level format before.loggers.own call.1
        call.2.loggers.own ∧
      ((∃ fault, call.1 = .error fault) ↔
        ∃ text, Chosen level (currentSettings settings history).logLevel text ∧
          String.ofList (Text.upper text.toList) ∈ ["BASIC_FORMAT", "_STYLES"]) ∧
      Settled before.loggers.own ∧
      before.loggers.root = root ∧ call.2.loggers.root = root := by
  intro before call
  have current : before.settings = currentSettings settings history := run_settings history
  have kept : before.loggers.root = root := run_root history
  obtain ⟨leaves, same, _⟩ := setUp_leaves before level format
  have fails := setUp_fails_iff before level format
  rw [current] at leaves fails
  exact ⟨leaves, fails, run_settled (.inl rfl) history, kept, same.trans kept⟩

end Runs

end Installation

end TenantApi.Log
