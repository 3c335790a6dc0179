import TenantApi.Decimal.Integer
import TenantApi.IpAddress
import TenantApi.Platform
import TenantApi.Text.Quoted
import TenantApi.Text.Split
import TenantApi.Url.Percent

/-!
Addresses of requests. An address is read into its components, each in normal form: scheme and host
in small letters, default ports dropped, dot segments removed from the path, and everything outside
the safe sets escaped while escapes that are there stay. The platform gives a host name beyond ASCII
its ASCII form. `withTarget` puts another path and query in, `withHost` another host; `resolve`
places a relative address below a base.
-/

namespace TenantApi

structure Url where
  scheme : List Char
  userInfo : List Char
  host : List Char
  port : Option Int
  path : List Char
  query : Option (List Char)
  fragment : Option (List Char)
  deriving DecidableEq, Repr

namespace Url

variable [Platform]

inductive Fault where
  | tooLong
  | unprintable (char : Char) (index : Nat)
  | partTooLong (part : String)
  | address4 (host : List Char)
  | address6 (host : List Char)
  | hostName (host : List Char)
  | port (text : List Char)
  | fragmentUnprintable (char : Char) (index : Nat)
  | pathWithoutSlash
  | relativeDoubleSlash
  | relativeColon
  deriving DecidableEq, Repr

def quotedText (text : List Char) : String := String.ofList (Text.quoted text)

def Fault.message : Fault → String
  | .tooLong => "URL too long"
  | .unprintable char index =>
      "Invalid non-printable ASCII character in URL, " ++ quotedText [char] ++ " at position " ++
        toString index ++ "."
  | .partTooLong part => "URL component '" ++ part ++ "' too long"
  | .address4 host => "Invalid IPv4 address: " ++ quotedText host
  | .address6 host => "Invalid IPv6 address: " ++ quotedText host
  | .hostName host => "Invalid IDNA hostname: " ++ quotedText host
  | .port text => "Invalid port: " ++ quotedText text
  | .fragmentUnprintable char index =>
      "Invalid non-printable ASCII character in URL fragment component, " ++ quotedText [char] ++
        " at position " ++ toString index ++ "."
  | .pathWithoutSlash => "For absolute URLs, path must be empty or begin with '/'"
  | .relativeDoubleSlash => "Relative URLs cannot have a path starting with '//'"
  | .relativeColon => "Relative URLs cannot have a path starting with ':'"

def lengthLimit : Nat := 65536

def isControl (c : Char) : Bool := c.toNat < 0x20 || c.toNat = 0x7f

def isVisibleBut (excluded : List Char) (c : Char) : Bool :=
  0x21 ≤ c.toNat && c.toNat ≤ 0x7e && !excluded.contains c

def isFragmentSafe : Char → Bool := isVisibleBut ['"', '<', '>', '`']

def isQuerySafe : Char → Bool := isVisibleBut ['"', '#', '<', '>']

def isPathSafe : Char → Bool := isVisibleBut ['"', '#', '<', '>', '?', '`', '{', '}']

def isUserInfoSafe : Char → Bool :=
  isVisibleBut ['"', '#', '<', '>', '?', '`', '{', '}', '/', ';', '=', '@', '[', '\\', ']', '^',
    '|']

def hostMarks : List Char :=
  ['!', '$', '&', '\x27', '(', ')', '*', '+', ',', ';', '=', '"', '`', '{', '}', '%', '|', '\\']

def isHostSafe (c : Char) : Bool := isUnreserved c || hostMarks.contains c

structure Parts where
  scheme : List Char
  authority : List Char
  path : List Char
  query : Option (List Char)
  fragment : Option (List Char)
  deriving DecidableEq, Repr

def isSchemeChar (c : Char) : Bool :=
  Text.isAsciiLetter c || Text.isAsciiDigit c || c = '+' || c = '.' || c = '-'

def splitScheme (text : List Char) : List Char × List Char :=
  let name := text.takeWhile isSchemeChar
  let name := if name.head?.any Text.isAsciiLetter then name else []
  match text.drop name.length with
  | ':' :: rest => (name, rest)
  | _ => ([], text)

def split (text : List Char) : Parts :=
  let (scheme, afterScheme) := splitScheme text
  let isEnd (c : Char) : Bool := c = '/' || c = '?' || c = '#'
  let (authority, afterAuthority) := match afterScheme with
    | '/' :: '/' :: rest => (rest.takeWhile (!isEnd ·), rest.dropWhile (!isEnd ·))
    | rest => ([], rest)
  let isPathEnd (c : Char) : Bool := c = '?' || c = '#'
  let path := afterAuthority.takeWhile (!isPathEnd ·)
  let (query, afterQuery) := match afterAuthority.dropWhile (!isPathEnd ·) with
    | '?' :: rest => (some (rest.takeWhile (· ≠ '#')), rest.dropWhile (· ≠ '#'))
    | rest => (none, rest)
  let fragment := match afterQuery with
    | '#' :: rest => some rest
    | _ => none
  ⟨scheme, authority, path, query, fragment⟩

/-- User information, host and port of an authority; the last `@` ends the user information. -/
def splitAuthority (text : List Char) : List Char × List Char × List Char :=
  let (userInfo, rest) := match Text.cutLast '@' text with
    | some cut => cut
    | none => ([], text)
  let host := match rest with
    | '[' :: inside => match Text.cutLast ']' inside with
      | some (address, _) => '[' :: address ++ [']']
      | none => rest.takeWhile (· ≠ ':')
    | _ => rest.takeWhile (· ≠ ':')
  match rest.drop host.length with
  | ':' :: port => (userInfo, host, port)
  | port => (userInfo, host, port)

/-- Four runs of digits with any one character between neighbours. -/
def looksLikeVersion4 : (breaks : Nat) → (afterDigit : Bool) → List Char → Bool
  | breaks, afterDigit, [] => breaks = 0 && afterDigit
  | breaks, afterDigit, c :: rest =>
      (Text.isAsciiDigit c && looksLikeVersion4 breaks true rest) ||
        (afterDigit && (match breaks with
          | 0 => false
          | left + 1 => looksLikeVersion4 left false rest))

def normalHost (host : List Char) : Except Fault (List Char) :=
  if host.isEmpty then .ok []
  else if looksLikeVersion4 3 false host then
    if IpAddress.isVersion4 host then .ok host else .error (.address4 host)
  else if host.head? = some '[' && host.getLast? = some ']' && 2 ≤ host.length then
    let address := (host.drop 1).dropLast
    if IpAddress.isVersion6 address then .ok address else .error (.address6 host)
  else if Text.isAscii host then .ok (requote isHostSafe (Text.asciiLower host))
  else match Platform.encodeHost host with
    | some encoded => .ok encoded
    | none => .error (.hostName host)

def defaultPorts : List (String × Int) :=
  [("ftp", 21), ("http", 80), ("https", 443), ("ws", 80), ("wss", 443)]

def normalPort (scheme text : List Char) : Except Fault (Option Int) :=
  if text.isEmpty then .ok none
  else match Decimal.readInteger text with
    | none => .error (.port text)
    | some port =>
        .ok (if defaultPorts.lookup (String.ofList scheme) = some port then none else some port)

def checkPath (hasScheme hasAuthority : Bool) (path : List Char) : Except Fault Unit :=
  if hasAuthority && !path.isEmpty && path.head? ≠ some '/' then .error .pathWithoutSlash
  else if !hasScheme && !hasAuthority && Text.startsWith ['/', '/'] path then
    .error .relativeDoubleSlash
  else if !hasScheme && !hasAuthority && path.head? = some ':' then .error .relativeColon
  else .ok ()

/-- Drops `.` segments, and `..` segments with the one before, but never the leading empty one.
`done` holds the segments so far, the last first. -/
def removeDots : (done : List (List Char)) → List (List Char) → List (List Char)
  | done, [] => done.reverse
  | done, segment :: rest =>
      if segment = ['.'] then removeDots done rest
      else if segment = ['.', '.'] then
        removeDots (if done = [[]] then done else done.tail) rest
      else removeDots (segment :: done) rest

def normalPath (path : List Char) : List Char :=
  let segments := Text.splitAt '/' path
  if segments.contains ['.'] || segments.contains ['.', '.'] then
    Text.join ['/'] (removeDots [] segments)
  else path

def ofParts (parts : Parts) : Except Fault Url := do
  let (userInfo, host, port) := splitAuthority parts.authority
  let userInfo := requote isUserInfoSafe userInfo
  let host ← normalHost host
  let port ← normalPort parts.scheme port
  let hasScheme := !parts.scheme.isEmpty
  let hasAuthority := !userInfo.isEmpty || !host.isEmpty || port.isSome
  checkPath hasScheme hasAuthority parts.path
  let path := if hasScheme || hasAuthority then normalPath parts.path else parts.path
  return ⟨Text.asciiLower parts.scheme, userInfo, host, port, requote isPathSafe path,
    parts.query.map (requote isQuerySafe), parts.fragment.map (requote isFragmentSafe)⟩

def parse (text : List Char) : Except Fault Url :=
  if lengthLimit < text.length then .error .tooLong
  else match text.find? isControl with
    | some c => .error (.unprintable c (text.takeWhile (· ≠ c)).length)
    | none => ofParts (split text)

def authority (url : Url) : List Char :=
  (if url.userInfo.isEmpty then [] else url.userInfo ++ ['@']) ++
    (if url.host.contains ':' then '[' :: url.host ++ [']'] else url.host) ++
    (match url.port with
      | none => []
      | some port => ':' :: Text.intDigits port)

def chars (url : Url) : List Char :=
  (if url.scheme.isEmpty then [] else url.scheme ++ [':']) ++
    (if url.authority.isEmpty then [] else '/' :: '/' :: url.authority) ++ url.path ++
    (match url.query with
      | none => []
      | some query => '?' :: query) ++
    (match url.fragment with
      | none => []
      | some fragment => '#' :: fragment)

def text (url : Url) : String := String.ofList url.chars

def target (url : Url) : List Char :=
  (if url.path.isEmpty then ['/'] else url.path) ++
    (match url.query with
      | none => []
      | some query => '?' :: query)

def tooLongPart? (parts : Parts) : Option String :=
  let lengths := [("scheme", parts.scheme.length), ("authority", parts.authority.length),
    ("path", parts.path.length), ("query", (parts.query.getD []).length),
    ("fragment", (parts.fragment.getD []).length)]
  (lengths.find? fun part => lengthLimit < part.2).map Prod.fst

def assemble (parts : Parts) : Except Fault Url :=
  match tooLongPart? parts with
  | some part => .error (.partTooLong part)
  | none => ofParts parts

def withTarget (url : Url) (target : List Char) : Except Fault Url :=
  let (path, query) := match Text.cutFirst '?' target with
    | some (path, query) => (path, some query)
    | none => (target, none)
  assemble ⟨url.scheme, url.authority, path, query, url.fragment⟩

def withQuery (url : Url) (query : Option (List Char)) : Except Fault Url :=
  assemble ⟨url.scheme, url.authority, url.path, query, url.fragment⟩

def asBase (url : Url) : Except Fault Url :=
  if url.target.getLast? = some '/' then .ok url else url.withTarget (url.target ++ ['/'])

def withHost (url : Url) (host : List Char) : Except Fault Url :=
  let parts : Parts := ⟨url.scheme, url.authority, url.path, url.query, url.fragment⟩
  match tooLongPart? parts with
  | some part => .error (.partTooLong part)
  | none =>
      if lengthLimit < host.length then .error (.partTooLong "host")
      else ofParts { parts with authority := { url with host }.authority }

def withFragment (url : Url) (fragment : List Char) : Except Fault Url :=
  let parts : Parts := ⟨url.scheme, url.authority, url.path, url.query, some fragment⟩
  match tooLongPart? parts with
  | some part => .error (.partTooLong part)
  | none => match fragment.find? isControl with
    | some c => .error (.fragmentUnprintable c (fragment.takeWhile (· ≠ c)).length)
    | none => ofParts parts

def shownHost (url : Url) : Except Platform.Fault (List Char) :=
  if Text.startsWith "xn--".toList url.host then Platform.decodeHost url.host else .ok url.host

def isAbsolute (url : Url) : Bool := !url.scheme.isEmpty && !url.host.isEmpty

def resolve (base url : Url) : Except Fault Url :=
  if url.isAbsolute then .ok url
  else base.withTarget (base.target ++ url.target.dropWhile (· = '/'))

def readablePath (url : Url) : String :=
  String.ofList (decodeLossy (if url.path.isEmpty then ['/'] else url.path))

end Url

end TenantApi
