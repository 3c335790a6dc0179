import TenantApi.Bytes.Utf8
import TenantApi.Http.Query
import TenantApi.Json.Printer

/-!
Bodies of requests. Files make a multipart body, with the form's fields before them; a form without
files is sent as encoded pairs; a structured value is sent in compact form when there is neither.
What cannot be written is refused: numbers that are not finite, integers that are too long, text
with halves of surrogate pairs, and nested values among the fields of a multipart body.
-/

namespace TenantApi

structure Upload where
  field : String
  fileName : String
  content : Octets
  contentType : String
  deriving DecidableEq, Repr

structure Content where
  json : Json
  form : Members
  files : List Upload
  deriving Repr

namespace Content

def none : Content := ⟨.null, [], []⟩

def ofJson (value : Json) : Content := { none with json := value }

end Content

structure Part where
  headerLines : List String
  content : Octets
  deriving DecidableEq, Repr

inductive Body where
  | empty
  | json (value : Json)
  | form (text : String)
  | multipart (parts : List Part)
  deriving Repr

namespace Body

inductive Fault where
  | notFinite
  /-- A list or an object where a single value is needed. -/
  | notSingle (kind shown : String)
  | text (fault : Query.Fault)
  deriving DecidableEq, Repr

def Fault.message : Fault → String
  | .notFinite => "Out of range float values are not JSON compliant"
  | .notSingle kind shown =>
      "Invalid type for value. Expected primitive type, got <class '" ++ kind ++ "'>: " ++ shown
  | .text fault => fault.message

mutual

def numberFault? : Json → Option Fault
  | .int value => if Decimal.isWritable value then none else some (.text .overlong)
  | .float value => if Decimal.isFinite value then none else some .notFinite
  | .array items => itemsFault? items
  | .object members => membersFault? members
  | _ => none

def itemsFault? : List Json → Option Fault
  | [] => none
  | item :: rest => (numberFault? item).or (itemsFault? rest)

def membersFault? : List (LooseText × Json) → Option Fault
  | [] => none
  | (_, value) :: rest => (numberFault? value).or (membersFault? rest)

end

/-- Why a value cannot be sent: its numbers count before its text. -/
def fault? (value : Json) : Option Fault :=
  (numberFault? value).or
    ((LoneHalves.find? (Json.points Json.compactWide value)).map fun found => .text (.halves found))

/-- A character of a name between quotes: quotes, backslashes and control characters are escaped,
apart from U+001B. -/
def nameChar (c : Char) : List Char :=
  if c = '"' then ['%', '2', '2']
  else if c = '\\' then ['\\', '\\']
  else if c.toNat < 0x20 && c.toNat ≠ 0x1b then Url.escapeByte (UInt8.ofNat c.toNat)
  else [c]

def namePoint : Point → List Point
  | .char c => (nameChar c).map .char
  | .half offset => [.half offset]

def nameParameter (key : String) (value : LooseText) : List Point :=
  key.toList.map .char ++ .char '=' :: .char '"' :: value.points.flatMap namePoint ++ [.char '"']

def fieldParameter (field : LooseText) : List Point := nameParameter "name" field

def disposition (field : LooseText) : String :=
  "Content-Disposition: form-data; " ++
    String.ofList ((fieldParameter field).map Point.shown)

def fieldPart (name : LooseText) (value : Json) : Except Fault Part :=
  match value with
  | .array _ | .object _ => match value.quotedText? with
    | some shown => .error (.notSingle value.typeName shown)
    | none => .error (.text .overlong)
  | value =>
      if value.isWritable then .ok ⟨[disposition name], Utf8.encode (Query.valueText value).chars⟩
      else .error (.text .overlong)

def fieldHalves? (name : LooseText) (value : Json) : Option LoneHalves :=
  (LoneHalves.find? (fieldParameter name)).or (LoneHalves.find? (Query.valueText value).points)

def filePart (file : Upload) : Part :=
  let fileName := String.ofList ((nameParameter "filename" file.fileName).map Point.shown)
  ⟨[disposition file.field ++ (if file.fileName = "" then "" else "; " ++ fileName),
    "Content-Type: " ++ file.contentType], file.content⟩

def singleFields (form : Members) : Members :=
  form.flatMap fun field => (Query.valueItems field.2).map fun value => (field.1, value)

/-- The parts of a form; its text is looked at when all of it has a form. -/
def fieldParts (form : Members) : Except Fault (List Part) := do
  let parts ← (singleFields form).mapM fun field => fieldPart field.1 field.2
  match (singleFields form).findSome? fun field => fieldHalves? field.1 field.2 with
  | some found => throw (.text (.halves found))
  | none => return parts

def ofContent (content : Content) : Except Fault Body :=
  if !content.files.isEmpty then
    (fieldParts content.form).map fun parts => .multipart (parts ++ content.files.map filePart)
  else if !content.form.isEmpty then match Query.fault? content.form with
    | some fault => .error (.text fault)
    | none => .ok (.form (String.ofList (Query.encode content.form)))
  else match content.json with
    | .null => .ok .empty
    | value => match fault? value with
      | some fault => .error fault
      | none => .ok (.json value)

/-- The content type that announces a body, the boundary of a multipart body left out. -/
def contentType? : Body → Option String
  | .empty => none
  | .json _ => some "application/json"
  | .form _ => some "application/x-www-form-urlencoded"
  | .multipart _ => some "multipart/form-data"

def text : Body → String
  | .json value => Json.toText Json.compactWide value
  | .form text => text
  | .empty | .multipart _ => ""

end Body

end TenantApi
