import TenantApi.Number
import TenantApi.Schema.Scalar
import TenantApi.Settings.EnvFile

/-!
Settings, and where they come from: given values win over environment variables, those over a file
of variables, and that over the defaults. Names count without regard to letter case; variables
begin with the name of the service. The settings are read at the time of each call that needs them.
A setting is text without halves of surrogate pairs; a text with one is taken for no text here.
-/

namespace TenantApi

structure Settings where
  domain : String
  managementToken : String
  clientId : String
  clientSecret : String
  timeout : Number
  logFormat : String
  logLevel : String
  deriving Repr

namespace Settings

def standard : Settings := ⟨"", "", "", "", .broken 10, "text", "WARNING"⟩

def orSetting (given : Option String) (setting : String) : String :=
  match given with
  | none => setting
  | some text => if text = "" then setting else text

def variableStart : String := "auth0_"

def lowerName (name : String) : String := String.ofList (Text.lower name.toList)

def lastNamed? {α : Type} (entries : List (String × α)) (name : String) : Option α :=
  (entries.reverse.find? fun entry => lowerName entry.1 == name).map Prod.snd

structure Sources where
  given : List (String × Json)
  environment : EnvFile.Variables
  file : Option String

def Sources.value? (sources : Sources) (name : String) : Option Json :=
  match lastNamed? sources.given name with
  | some value => some value
  | none =>
      let variableName := variableStart ++ name
      match lastNamed? sources.environment variableName with
      | some value => some (.string (.plain value))
      | none => match sources.file with
        | none => none
        | some text =>
            let bound := EnvFile.resolve sources.environment (EnvFile.bindings text.toList)
            (lastNamed? bound variableName).bind fun value =>
              value.map fun text => .string (.plain text)

open Schema

def readText (sources : Sources) (name fallback : String) : Except (List Issue) String :=
  match sources.value? name with
  | none => .ok fallback
  | some (.string (.plain value)) => .ok value
  | some _ => .error [⟨.notText, [.key name]⟩]

def readNumber (sources : Sources) (name : String) (fallback : Number) :
    Except (List Issue) Number :=
  match sources.value? name with
  | none => .ok fallback
  | some value => match readFloat value with
    | .ok number => .ok (.broken number)
    | .error problem => .error [⟨problem, [.key name]⟩]

def issuesOf {α : Type} : Except (List Issue) α → List Issue
  | .ok _ => []
  | .error issues => issues

/-- The settings of given sources, or all issues in the order of the settings. -/
def load (sources : Sources) : Except (List Issue) Settings :=
  let domain := readText sources "domain" standard.domain
  let managementToken := readText sources "management_token" standard.managementToken
  let clientId := readText sources "client_id" standard.clientId
  let clientSecret := readText sources "client_secret" standard.clientSecret
  let timeout := readNumber sources "timeout" standard.timeout
  let logFormat := readText sources "log_format" standard.logFormat
  let logLevel := readText sources "log_level" standard.logLevel
  match domain, managementToken, clientId, clientSecret, timeout, logFormat, logLevel with
  | .ok domain, .ok managementToken, .ok clientId, .ok clientSecret, .ok timeout, .ok logFormat,
    .ok logLevel =>
      .ok ⟨domain, managementToken, clientId, clientSecret, timeout, logFormat, logLevel⟩
  | domain, managementToken, clientId, clientSecret, timeout, logFormat, logLevel =>
      .error (issuesOf domain ++ issuesOf managementToken ++ issuesOf clientId ++
        issuesOf clientSecret ++ issuesOf timeout ++ issuesOf logFormat ++ issuesOf logLevel)

end Settings

end TenantApi
