import TenantApi.Url.Join

/-!
Redirections. A response that points elsewhere is not followed, but the request to the other place
is prepared, and the response is lost when that cannot be done. A place without a host is at the
host of the request, a relative one below its address, and one without a fragment takes over the
fragment; after that the hosts of both are compared.
-/

namespace TenantApi.Redirect

variable [Platform]

inductive Fault where
  /-- The place is no address. -/
  | location (fault : Url.Fault)
  /-- There is no address where the place leads to. -/
  | target (fault : Url.Fault)
  | hostName (fault : Platform.Fault)
  deriving DecidableEq, Repr

def Fault.message : Fault → String
  | .location fault => "Invalid URL in location header: " ++ fault.message ++ "."
  | .target fault => fault.message
  | .hostName fault => fault.message

def atHost (request place : Url) : Except Fault Url := do
  if place.scheme.isEmpty then return place
  let host ← place.shownHost.mapError .hostName
  if !host.isEmpty then return place
  let own ← request.shownHost.mapError .hostName
  (place.withHost own).mapError .target

def belowRequest (request place : Url) : Except Fault Url :=
  if place.isAbsolute then .ok place
  else (Url.parse (Url.join request.chars place.chars)).mapError .target

def withOwnFragment (request place : Url) : Except Fault Url :=
  let own := request.fragment.getD []
  if own.isEmpty || !(place.fragment.getD []).isEmpty then .ok place
  else (place.withFragment (Url.decodeLossy own)).mapError .target

/-- The names of both hosts: first that of the place if the schemes are the same. -/
def compareHosts (request place : Url) : Except Fault Unit := do
  let (first, second) := if place.scheme = request.scheme then (place, request)
    else (request, place)
  let _ ← first.shownHost.mapError .hostName
  let _ ← second.shownHost.mapError .hostName

def target (request : Url) (location : String) : Except Fault Url := do
  let place ← (Url.parse location.toList).mapError .location
  let place ← atHost request place
  let place ← belowRequest request place
  let place ← withOwnFragment request place
  compareHosts request place
  return place

end TenantApi.Redirect
