import TenantApi.Text.Blank

/-!
Files of environment variables, one binding to a line. A value stands bare, up to a comment, or
between quotes, where it may run over lines and hold escapes. A bare or quoted value may name
variables, `${name}` or `${name:-default}`, which are those of the environment and the bindings
before. A line that is no binding is passed over.
-/

namespace TenantApi.EnvFile

structure Binding where
  key : List Char
  value : Option (List Char)
  deriving DecidableEq, Repr

def isLineEnd (c : Char) : Bool := c = '\n' || c = '\r'

def isInlineBlank (c : Char) : Bool := Text.isBlank c && !isLineEnd c

def skipInline (text : List Char) : List Char := text.dropWhile isInlineBlank

def isKeyChar (c : Char) : Bool := c ≠ '=' && c ≠ '#' && !Text.isBlank c

/-- The text up to a closing quote and the rest; a backslash before a quote keeps it inside. -/
def takeQuoted (mark : Char) : List Char → Option (List Char × List Char)
  | [] => none
  | c :: rest =>
      if c = mark then some ([], rest)
      else if c = '\\' && rest.head? = some mark then
        match rest with
        | [] => none
        | escaped :: rest =>
            match takeQuoted mark rest with
            | some (inside, after) => some (c :: escaped :: inside, after)
            | none => some ([c], rest)
      else (takeQuoted mark rest).map fun r => (c :: r.1, r.2)

def doubleEscape? : Char → Option Char
  | '\\' => some '\\'
  | '\x27' => some '\x27'
  | '"' => some '"'
  | 'a' => some '\x07'
  | 'b' => some '\x08'
  | 'f' => some '\x0c'
  | 'n' => some '\n'
  | 'r' => some '\r'
  | 't' => some '\t'
  | 'v' => some '\x0b'
  | _ => none

def singleEscape? : Char → Option Char
  | '\\' => some '\\'
  | '\x27' => some '\x27'
  | _ => none

def unescape (escape? : Char → Option Char) : List Char → List Char
  | '\\' :: c :: rest => match escape? c with
    | some meant => meant :: unescape escape? rest
    | none => '\\' :: unescape escape? (c :: rest)
  | c :: rest => c :: unescape escape? rest
  | [] => []

def dropComment (text : List Char) : List Char :=
  let rec go : List Char → List Char
    | [] => []
    | c :: rest =>
        if Text.isBlank c && (rest.dropWhile Text.isBlank).head? = some '#' then []
        else c :: go rest
  Text.trimEnd Text.isBlank (go text)

def takeValue (text : List Char) : Option (List Char × List Char) :=
  match text with
  | [] => some ([], [])
  | c :: rest =>
      if c = '\x27' then
        (takeQuoted c rest).map fun r => (unescape singleEscape? r.1, r.2)
      else if c = '"' then
        (takeQuoted c rest).map fun r => (unescape doubleEscape? r.1, r.2)
      else
        some (dropComment (text.takeWhile (!isLineEnd ·)), text.dropWhile (!isLineEnd ·))

def dropExport (text : List Char) : List Char :=
  match text with
  | 'e' :: 'x' :: 'p' :: 'o' :: 'r' :: 't' :: c :: rest =>
      if isInlineBlank c then skipInline rest else text
  | _ => text

def takeKey (text : List Char) : Option (Option (List Char) × List Char) :=
  match text with
  | '#' :: _ => some (none, text)
  | '\x27' :: rest =>
      let key := rest.takeWhile (· ≠ '\x27')
      match rest.dropWhile (· ≠ '\x27') with
      | _ :: after => if key.isEmpty then none else some (some key, after)
      | [] => none
  | _ =>
      let key := text.takeWhile isKeyChar
      if key.isEmpty then none else some (some key, text.dropWhile isKeyChar)

def endLine? (text : List Char) : Option (List Char) :=
  let afterComment := match skipInline text with
    | '#' :: rest => rest.dropWhile (!isLineEnd ·)
    | rest => rest
  match skipInline afterComment with
  | [] => some []
  | '\r' :: '\n' :: rest => some rest
  | c :: rest => if isLineEnd c then some rest else none

def skipLine (text : List Char) : List Char :=
  match text.dropWhile (!isLineEnd ·) with
  | '\r' :: '\n' :: rest => rest
  | _ :: rest => rest
  | [] => []

/-- The binding at the start of a text that begins with no blank, and the rest. Where a binding
stops making sense, the rest of that line is passed over. -/
def takeBinding (text : List Char) : Option Binding × List Char :=
  let start := dropExport text
  match takeKey start with
  | none => (none, skipLine start)
  | some (key, rest) =>
      let rest := skipInline rest
      let valued : Option (Option (List Char) × List Char) := match rest with
        | '=' :: after =>
            (takeValue (skipInline after)).map fun r => (some r.1, r.2)
        | _ => some (none, rest)
      match valued with
      | none => (none, skipLine rest)
      | some (value, after) => match endLine? after with
        | none => (none, skipLine after)
        | some next => (key.map fun key => ⟨key, value⟩, next)

def bindingsFrom : (fuel : Nat) → List Char → List Binding
  | 0, _ => []
  | fuel + 1, text => match text.dropWhile Text.isBlank with
    | [] => []
    | c :: rest =>
        let taken := takeBinding (c :: rest)
        match taken.1 with
        | some binding => binding :: bindingsFrom fuel taken.2
        | none => bindingsFrom fuel taken.2

def bindings (text : List Char) : List Binding := bindingsFrom (text.length + 1) text

abbrev Variables := List (String × String)

def takeReference (text : List Char) : Option (List Char × Option (List Char) × Nat) :=
  let name := text.takeWhile fun c => c ≠ '}' && c ≠ ':'
  match text.drop name.length with
  | '}' :: _ => some (name, none, name.length + 1)
  | ':' :: '-' :: rest =>
      let fallback := rest.takeWhile (· ≠ '}')
      if fallback.length < rest.length then
        some (name, some fallback, name.length + 2 + fallback.length + 1)
      else none
  | _ => none

/-- A value with its references replaced. `skip` characters belong to a reference before. -/
def expandFrom (known : Variables) : (skip : Nat) → List Char → List Char
  | _, [] => []
  | skip + 1, _ :: rest => expandFrom known skip rest
  | 0, c :: rest =>
      if c = '$' && rest.head? = some '{' then
        match takeReference (rest.drop 1) with
        | some (name, fallback, used) =>
            let value := match known.lookup (String.ofList name) with
              | some value => value.toList
              | none => fallback.getD []
            value ++ expandFrom known (used + 1) rest
        | none => c :: expandFrom known 0 rest
      else c :: expandFrom known 0 rest

def resolve (known : Variables) : List Binding → List (String × Option String)
  | [] => []
  | binding :: rest =>
      let key := String.ofList binding.key
      let value := binding.value.map fun value => String.ofList (expandFrom known 0 value)
      (key, value) :: resolve ((key, value.getD "") :: known) rest

end TenantApi.EnvFile
