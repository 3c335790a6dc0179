import TenantApi.Log.Record
import TenantApi.Settings.Basic
import TenantApi.Text.Capitals

/-!
Setting up the logger. Each set-up replaces the one handler, takes level and form from its
arguments or else from the settings of the moment, and stops records from going further up. Any
name that is no level means the warning level, but two names stand for things that are no levels,
and they make the set-up fail before it has changed anything.
-/

namespace TenantApi.Log

structure Logger where
  handlers : List Style
  level : Int
  propagates : Bool
  deriving DecidableEq, Repr

def Logger.bare : Logger := ⟨[], 0, true⟩

inductive SetupFault where
  /-- A text that is no level. -/
  | unknownLevel
  /-- A table instead of a level. -/
  | notALevel
  deriving DecidableEq, Repr

def basicForm : String := "%(levelname)s:%(name)s:%(message)s"

def SetupFault.message : SetupFault → String
  | .unknownLevel => "Unknown level: " ++ Text.quotedString basicForm
  | .notALevel =>
      "Level not an integer or a valid string: \x7b'%': (<class 'logging.PercentStyle'>, '" ++
        basicForm ++ "'), '\x7b': (<class 'logging.StrFormatStyle'>, " ++
        "'\x7blevelname\x7d:\x7bname\x7d:\x7bmessage\x7d'), '$': " ++
        "(<class 'logging.StringTemplateStyle'>, " ++
        "'$\x7blevelname\x7d:$\x7bname\x7d:$\x7bmessage\x7d')\x7d"

def reservedNames : List (String × SetupFault) :=
  [("BASIC_FORMAT", .unknownLevel), ("_STYLES", .notALevel)]

def levelOf (name : String) : Except SetupFault Int :=
  let capital := String.ofList (Text.upper name.toList)
  match reservedNames.lookup capital with
  | some fault => .error fault
  | none => .ok ((levelNamed? capital).getD warning)

def styleOf (name : String) : Style :=
  if String.ofList (Text.lower name.toList) = "json" then .structured else .text

def setUp (settings : Settings) (level format : Option String) : Except SetupFault Logger :=
  match levelOf (Settings.orSetting level settings.logLevel) with
  | .error fault => .error fault
  | .ok level => .ok ⟨[styleOf (Settings.orSetting format settings.logFormat)], level, false⟩

structure Loggers where
  own : Logger
  root : Logger
  deriving DecidableEq, Repr

/-- Changes to loggers, one after another; those made before a failure stay made. -/
abbrev Change := ExceptT SetupFault (StateM Loggers)

def setLevel (name : String) : Change Unit := do
  let level ← MonadExcept.ofExcept (levelOf name)
  modify fun loggers => { loggers with own.level := level }

def configure (settings : Settings) (level format : Option String) : Change Unit := do
  let style := styleOf (Settings.orSetting format settings.logFormat)
  setLevel (Settings.orSetting level settings.logLevel)
  modify fun loggers => { loggers with own.handlers := [style] }
  modify fun loggers => { loggers with own.propagates := false }

structure Installation where
  settings : Settings
  loggers : Loggers

namespace Installation

def setUp (installation : Installation) (level format : Option String) :
    Except SetupFault Unit × Installation :=
  let (result, loggers) := (configure installation.settings level format).run.run
    installation.loggers
  (result, { installation with loggers })

inductive Event where
  | settings (settings : Settings)
  | setUp (level format : Option String)

def step (installation : Installation) : Event → Installation
  | .settings settings => { installation with settings }
  | .setUp level format => (installation.setUp level format).2

def run (installation : Installation) (events : List Event) : Installation :=
  events.foldl step installation

end Installation

end TenantApi.Log
