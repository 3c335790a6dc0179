import TenantApi.Proofs.Base64
import TenantApi.Proofs.JsonBytes
import TenantApi.Proofs.JsonPrinter
import TenantApi.Telemetry

/-!
The telemetry header read back. Whatever the version of the runtime is, the value holds letters,
figures and two marks only, so every connection can send it, and under its Base64 stands the text of
the object that names the library and both versions.
-/

namespace TenantApi.Telemetry

variable (runtimeVersion : String)

def payload : Octets := Utf8.encode (Json.render Json.compact (description runtimeVersion))

theorem headerValue_toList :
    (headerValue runtimeVersion).toList = Base64.encode (payload runtimeVersion) := by
  rw [headerValue, String.toList_ofList, payload]

-- The text is that of an object, so its bytes name their own encoding.
theorem payload_read :
    Json.ofBytes (payload runtimeVersion) = .ok (description runtimeVersion) := by
  have readable : (description runtimeVersion).Readable := by
    simp [description, Json.Readable, Json.ReadableMembers, Json.apart_plain]
  exact Json.ofBytes_object (Json.isText_render Json.separates_compact readable)

theorem headerValue_letters : ∀ c ∈ (headerValue runtimeVersion).toList, Base64.IsLetter c := by
  rw [headerValue_toList]
  exact Base64.encode_letters _

theorem headerValue_accepted : Text.requireAscii (headerValue runtimeVersion) = .ok () := by
  rw [Text.requireAscii_iff, Text.IsAscii, headerValue_toList]
  exact Base64.encode_ascii _

theorem headerValue_given : headerValue runtimeVersion ≠ "" := by
  intro empty
  have decoded := Base64.decode_encode (payload runtimeVersion)
  rw [← headerValue_toList, empty] at decoded
  have nothing : payload runtimeVersion = [] := (Option.some.inj decoded).symm
  have read := payload_read runtimeVersion
  rw [nothing] at read
  contradiction

/-- Filled up with padding to whole groups of four and decoded, the value is the text of an object
with the name of the library, its version and the version of the runtime, and with nothing else. -/
theorem headerValue_reads_back :
    headerValue runtimeVersion ≠ "" ∧
      (∀ c ∈ (headerValue runtimeVersion).toList, Base64.IsLetter c) ∧
      Text.requireAscii (headerValue runtimeVersion) = .ok () ∧
      ∃ bytes,
        Base64.decode ((headerValue runtimeVersion).toList ++
          List.replicate (-((headerValue runtimeVersion).length : Int) % 4).toNat '=') =
            some bytes ∧
        Json.ofBytes bytes = .ok (.object [
          ("name", .string "auth0-sdk"),
          ("version", .string libraryVersion),
          ("env", .object [("python", .string runtimeVersion)])]) := by
  refine ⟨headerValue_given runtimeVersion, headerValue_letters runtimeVersion,
    headerValue_accepted runtimeVersion, payload runtimeVersion, ?_, payload_read runtimeVersion⟩
  rw [← String.length_toList, headerValue_toList]
  exact Base64.decode_filled (payload runtimeVersion)

example : headerValue "3.9" =
    "eyJuYW1lIjoiYXV0aDAtc2RrIiwidmVyc2lvbiI6IjAuNC4wIiwiZW52Ijp7InB5dGhvbiI6IjMuOSJ9fQ" := by
  rfl

end TenantApi.Telemetry
