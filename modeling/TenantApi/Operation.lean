import TenantApi.Connection
import TenantApi.Resource.Catalogue

/-!
The operations of the two APIs. Each one turns its arguments into a call, or refuses them, and says
what it expects of the body of a good response. Where an operation is about one thing, the thing's
identifier is one segment of a fixed path.
-/

namespace TenantApi

open Resource (Submission)

/-- A path with one identifier in it: the fixed segments before and after, and what messages call
the identifier. -/
structure Place where
  before : List String
  parameter : String
  after : List String
  deriving DecidableEq, Repr

namespace Place

def ofSegments (segments : List String) : String := "/" ++ "/".intercalate segments

def path (place : Place) (identifier : String) : Except Argument.Fault String :=
  (Argument.pathSegment place.parameter identifier).map fun segment =>
    ofSegments (place.before ++ segment :: place.after)

def job : Place := ⟨["jobs"], "job_id", []⟩

def jobErrors : Place := ⟨["jobs"], "job_id", ["errors"]⟩

def organization : Place := ⟨["organizations"], "organization_id", []⟩

def organizationMembers : Place := ⟨["organizations"], "organization_id", ["members"]⟩

def clientGrant : Place := ⟨["client-grants"], "grant_id", []⟩

def resourceServer : Place := ⟨["resource-servers"], "resource_server_id", []⟩

def encryptionKey : Place := ⟨["keys", "encryption"], "kid", []⟩

end Place

inductive Operation where
  | request (call : Call)
  | requestText (call : Call)
  | getJob (id : String)
  | getJobErrors (id : String)
  | importUsers (options : Argument.ImportOptions) (fileName : String) (content : Octets)
  | exportUsers (submission : Submission)
  | sendVerificationEmail (submission : Submission)
  | getOrganization (id : String)
  | updateOrganization (id : String) (submission : Submission)
  | addMembers (id : String) (submission : Submission)
  | deleteMembers (id : String) (submission : Submission)
  | createClientGrant (submission : Submission)
  | updateClientGrant (id : String) (submission : Submission)
  | deleteClientGrant (id : String)
  | getResourceServer (id : String)
  | updateResourceServer (id : String) (submission : Submission)
  | getEncryptionKey (id : String)
  | deleteEncryptionKey (id : String)
  | startPasswordlessEmail (submission : Submission) (forwardedFor : Option String)
  | startPasswordlessSms (submission : Submission) (forwardedFor : Option String)

inductive Shape where
  | anything
  | text
  | nothing
  | model (model : Schema.Model)
  | jobErrors

inductive Answer where
  | json (value : Json)
  | text (value : LooseText)
  | nothing
  | record (model : Schema.Model) (data : Datum)
  | jobErrors (errors : Option JobErrors)
  | claims (claims : Members)
  /-- The party that was asked. -/
  | self

variable [Platform]

/-- The answer in the body of a response. The body is read also when nothing is made of it. -/
def Shape.read (shape : Shape) (response : Response) : Except Failure Answer :=
  match shape with
  | .anything => (response.value.mapError .undecodable).map .json
  | .text => (response.text.mapError .undecodable).map .text
  | .nothing => (response.value.mapError .undecodable).map fun _ => .nothing
  | .model expected => do
      let value ← response.value.mapError .undecodable
      let data ← (expected.readJson value).mapError .mismatch
      return .record expected data
  | .jobErrors => do
      let text ← response.text.mapError .undecodable
      let errors ← (JobErrors.ofPoints text.points).mapError .jobErrors
      return .jobErrors errors

namespace Operation

def usersFileType : String := "text/json"

def plainCall (method path : String) (json : Json) : Call :=
  ⟨method, path, none, .ofJson json, []⟩

def callAt (method : String) (place : Place) (identifier : String) : Except Argument.Fault Call :=
  (place.path identifier).map fun path => plainCall method path .null

def payloadOf (submission : Submission) : Except Argument.Fault Json :=
  match submission.payload? with
  | some payload => .ok payload
  | none => .error .tooDeep

/-- A call about the thing with an identifier, which is looked at before the request. -/
def submitAt (method : String) (place : Place) (identifier : String) (submission : Submission) :
    Except Argument.Fault Call := do
  let path ← place.path identifier
  return plainCall method path (← payloadOf submission)

def submit (method path : String) (submission : Submission) : Except Argument.Fault Call :=
  (payloadOf submission).map (plainCall method path)

def importCall (options : Argument.ImportOptions) (fileName : String) (content : Octets) :
    Except Argument.Fault Call :=
  (Argument.importForm options).map fun form =>
    ⟨"POST", "/jobs/users-imports", none,
      ⟨.null, form, [⟨"users", fileName, content, usersFileType⟩]⟩, []⟩

def passwordlessCall (submission : Submission) (forwardedFor : Option String) :
    Except Argument.Fault Call := do
  let call ← submit "POST" "/passwordless/start" submission
  let fields ← Argument.forwardedFor forwardedFor
  return { call with fields }

def call : Operation → Except Argument.Fault Call
  | .request call | .requestText call => .ok call
  | .getJob id => callAt "GET" .job id
  | .getJobErrors id => callAt "GET" .jobErrors id
  | .importUsers options fileName content => importCall options fileName content
  | .exportUsers submission => submit "POST" "/jobs/users-exports" submission
  | .sendVerificationEmail submission => submit "POST" "/jobs/verification-email" submission
  | .getOrganization id => callAt "GET" .organization id
  | .updateOrganization id submission => submitAt "PATCH" .organization id submission
  | .addMembers id submission => submitAt "POST" .organizationMembers id submission
  | .deleteMembers id submission => submitAt "DELETE" .organizationMembers id submission
  | .createClientGrant submission => submit "POST" "/client-grants" submission
  | .updateClientGrant id submission => submitAt "PATCH" .clientGrant id submission
  | .deleteClientGrant id => callAt "DELETE" .clientGrant id
  | .getResourceServer id => callAt "GET" .resourceServer id
  | .updateResourceServer id submission => submitAt "PATCH" .resourceServer id submission
  | .getEncryptionKey id => callAt "GET" .encryptionKey id
  | .deleteEncryptionKey id => callAt "DELETE" .encryptionKey id
  | .startPasswordlessEmail submission forwardedFor
  | .startPasswordlessSms submission forwardedFor => passwordlessCall submission forwardedFor

def shape : Operation → Shape
  | .request _ => .anything
  | .requestText _ => .text
  | .getJob _ | .importUsers .. | .exportUsers _ | .sendVerificationEmail _ => .model Resource.job
  | .getJobErrors _ => .jobErrors
  | .getOrganization _ | .updateOrganization .. => .model Resource.organization
  | .createClientGrant _ | .updateClientGrant .. => .model Resource.clientGrant
  | .getResourceServer _ | .updateResourceServer .. => .model Resource.resourceServer
  | .getEncryptionKey _ => .model Resource.encryptionKey
  | .startPasswordlessEmail .. => .model Resource.passwordlessEmailResponse
  | .startPasswordlessSms .. => .model Resource.passwordlessSmsResponse
  | .addMembers .. | .deleteMembers .. | .deleteClientGrant _ | .deleteEncryptionKey _ => .nothing

end Operation

end TenantApi
