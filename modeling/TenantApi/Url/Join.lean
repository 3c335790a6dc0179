import TenantApi.Text.Split
import TenantApi.Url.Basic

/-!
Placing one address below another as texts. The second one counts from its first component on that
is there; a relative path continues that of the first one after its last slash, and its dot segments
are resolved. Schemes that know no relative addresses leave the second one as it is.
-/

namespace TenantApi.Url

def hierarchicalSchemes : List String := [
  "", "ftp", "http", "gopher", "nntp", "imap", "wais", "file", "https", "shttp", "mms", "prospero",
  "rtsp", "rtsps", "rtspu", "sftp", "svn", "svn+ssh", "ws", "wss"]

def authoritySchemes : List String :=
  ["telnet", "snews", "rsync", "nfs", "git", "git+ssh"]

def parameterSchemes : List String := [
  "", "ftp", "hdl", "prospero", "http", "imap", "https", "shttp", "rtsp", "rtsps", "rtspu", "sip",
  "sips", "mms", "sftp", "tel"]

/-- Components for joining: empty ones count as absent. -/
structure Pieces where
  scheme : List Char
  authority : List Char
  path : List Char
  params : List Char
  query : List Char
  fragment : List Char

def isListed (schemes : List String) (scheme : List Char) : Bool :=
  schemes.contains (String.ofList scheme)

def splitParams (path : List Char) : List Char × List Char :=
  let last := (path.reverse.takeWhile (· ≠ '/')).reverse
  match Text.cutFirst ';' last with
  | some (_, params) => (path.take (path.length - params.length - 1), params)
  | none => (path, [])

def piecesOf (scheme text : List Char) : Pieces :=
  let parts := split text
  let scheme := if parts.scheme.isEmpty then scheme else Text.asciiLower parts.scheme
  let (path, params) :=
    if isListed parameterSchemes scheme then splitParams parts.path else (parts.path, [])
  ⟨scheme, parts.authority, path, params, parts.query.getD [], parts.fragment.getD []⟩

def Pieces.chars (pieces : Pieces) : List Char :=
  let mark (c : Char) (text : List Char) : List Char := if text.isEmpty then [] else c :: text
  let path := pieces.path ++ mark ';' pieces.params
  let hasAuthority := !pieces.authority.isEmpty ||
    (!pieces.scheme.isEmpty && isListed (hierarchicalSchemes ++ authoritySchemes) pieces.scheme) ||
    Text.startsWith ['/', '/'] path
  let path := if hasAuthority && !path.isEmpty && path.head? ≠ some '/' then '/' :: path else path
  (if pieces.scheme.isEmpty then [] else pieces.scheme ++ [':']) ++
    (if hasAuthority then '/' :: '/' :: pieces.authority else []) ++ path ++
    mark '?' pieces.query ++ mark '#' pieces.fragment

def resolveDots : (done : List (List Char)) → List (List Char) → List (List Char)
  | done, [] => done.reverse
  | done, segment :: rest =>
      if segment = ['.'] then resolveDots done rest
      else if segment = ['.', '.'] then resolveDots done.tail rest
      else resolveDots (segment :: done) rest

def dropInnerEmpty : List (List Char) → List (List Char)
  | [] => []
  | first :: rest => first :: rest.dropLast.filter (!·.isEmpty) ++ rest.getLast?.toList

/-- A path from the last slash of another one on. -/
def joinPath (base path : List Char) : List Char :=
  let segments :=
    if path.head? = some '/' then Text.splitAt '/' path
    else
      let before := Text.splitAt '/' base
      let before := if before.getLast? = some [] then before else before.dropLast
      dropInnerEmpty (before ++ Text.splitAt '/' path)
  let isDots := segments.getLast? = some ['.'] || segments.getLast? = some ['.', '.']
  let joined := Text.join ['/'] (resolveDots [] segments ++ if isDots then [[]] else [])
  if joined.isEmpty then ['/'] else joined

def join (base text : List Char) : List Char :=
  if base.isEmpty then text
  else if text.isEmpty then base
  else
    let origin := piecesOf [] base
    let pieces := piecesOf origin.scheme text
    if pieces.scheme ≠ origin.scheme || !isListed hierarchicalSchemes pieces.scheme then text
    else if !pieces.authority.isEmpty then pieces.chars
    else if pieces.path.isEmpty && pieces.params.isEmpty then
      { pieces with
        authority := origin.authority
        path := origin.path
        params := origin.params
        query := if pieces.query.isEmpty then origin.query else pieces.query }.chars
    else { pieces with
      authority := origin.authority
      path := joinPath origin.path pieces.path }.chars

end TenantApi.Url
