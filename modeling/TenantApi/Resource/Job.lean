import TenantApi.Schema.Reader

/-!
Jobs: users imports and exports and verification emails, the per-record errors of an import, and
the requests that start jobs.
-/

namespace TenantApi.Resource

open Schema

def jobSummary : Model := ⟨"JobSummary", true, [
  nullable "failed" .integer, nullable "updated" .integer, nullable "inserted" .integer,
  nullable "total" .integer]⟩

def job : Model := ⟨"Job", true, [
  nullable "id" .text, nullable "type" .text, nullable "status" .text,
  nullable "created_at" .moment, nullable "connection_id" .text, nullable "connection" .text,
  nullable "external_id" .text, nullable "format" .text, nullable "limit" .integer,
  nullable "location" .text, nullable "percentage_done" .integer,
  nullable "time_left_seconds" .integer, nullable "status_details" .text,
  nullable "summary" jobSummary.kind]⟩

def jobImportError : Model := ⟨"JobImportError", true, [
  required "code" .text, defaulted "message" (.text "") .text, defaulted "path" (.text "") .text]⟩

def jobImportErrorDetails : Model := ⟨"JobImportErrorDetails", true, [
  defaulted "user" .null .anything, defaulted "errors" (.list []) (.list jobImportError.kind)]⟩

def emailVerificationIdentity : Model := ⟨"EmailVerificationIdentity", false, [
  required "user_id" .text, required "provider" .text]⟩

def verifyEmailJobRequest : Model := ⟨"VerifyEmailJobRequest", false, [
  required "user_id" .text, nullable "client_id" .text,
  nullable "identity" emailVerificationIdentity.kind, nullable "organization_id" .text]⟩

def usersExportsJobField : Model := ⟨"UsersExportsJobField", false, [
  required "name" .text, nullable "export_as" .text]⟩

def usersExportsJobRequest : Model := ⟨"UsersExportsJobRequest", false, [
  nullable "connection_id" .text, nullable "format" (.choice WireEnum.usersExportFormat),
  nullable "limit" .integer, nullable "fields" (.list usersExportsJobField.kind)]⟩

end TenantApi.Resource
