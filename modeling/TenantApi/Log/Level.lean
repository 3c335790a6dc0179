import TenantApi.Text.Case
import TenantApi.Text.Digit

/-!
Severity levels: numbers, five of them with a name of their own.
-/

namespace TenantApi.Log

def levels : List (String × Int) := [
  ("CRITICAL", 50), ("ERROR", 40), ("WARNING", 30), ("INFO", 20), ("DEBUG", 10), ("NOTSET", 0)]

def levelSynonyms : List (String × Int) := [("FATAL", 50), ("WARN", 30)]

def levelNamed? (name : String) : Option Int := (levels ++ levelSynonyms).lookup name

def levelName (level : Int) : String :=
  match levels.find? fun entry => entry.2 == level with
  | some entry => entry.1
  | none => "Level " ++ String.ofList (Text.intDigits level)

def debug : Int := 10

def warning : Int := 30

end TenantApi.Log
