import TenantApi.Bytes.Base64
import TenantApi.Json.Printer

/-!
The telemetry header: a small object that names the library, its version and the runtime's version,
in compact structured text under unpadded Base64.
-/

namespace TenantApi.Telemetry

def headerName : String := "Auth0-Client"

def libraryName : String := "auth0-sdk"

def libraryVersion : String := "0.4.0"

def description (runtimeVersion : String) : Json :=
  .object [("name", .string libraryName), ("version", .string libraryVersion),
    ("env", .object [("python", .string runtimeVersion)])]

def headerValue (runtimeVersion : String) : String :=
  String.ofList (Base64.encode
    (Utf8.encode (Json.render Json.compact (description runtimeVersion))))

end TenantApi.Telemetry
