import TenantApi.Decimal.Integer
import TenantApi.Decimal.Layout
import TenantApi.Json.Basic
import TenantApi.Text.Quoted

/-!
Values inside messages. `displayQuoted` quotes text wherever it stands, and `displayPlain` leaves
text that is the whole value as it is; both write the other scalars as words: `None`, `True`,
`False`. A value with too long an integer anywhere in it is not writable, and `quotedText?` has no
text for it; values that were read are always writable.
-/

namespace TenantApi.Json

mutual

def isWritable : Json → Bool
  | .int value => Decimal.isWritable value
  | .array items => areWritable items
  | .object members => membersWritable members
  | _ => true

def areWritable : List Json → Bool
  | [] => true
  | item :: rest => isWritable item && areWritable rest

def membersWritable : List (LooseText × Json) → Bool
  | [] => true
  | (_, value) :: rest => isWritable value && membersWritable rest

end

mutual

def displayQuoted : Json → List Char
  | .null => "None".toList
  | .bool true => "True".toList
  | .bool false => "False".toList
  | .int value => Text.intDigits value
  | .float value => Decimal.render Decimal.plainLayout value
  | .string value => value.quoted
  | .array items => '[' :: displayItems items ++ [']']
  | .object members => '{' :: displayMembers members ++ ['}']

def displayItems : List Json → List Char
  | [] => []
  | [item] => displayQuoted item
  | item :: next :: rest => displayQuoted item ++ [',', ' '] ++ displayItems (next :: rest)

def displayMembers : List (LooseText × Json) → List Char
  | [] => []
  | [(key, value)] => key.quoted ++ [':', ' '] ++ displayQuoted value
  | (key, value) :: next :: rest =>
      key.quoted ++ [':', ' '] ++ displayQuoted value ++ [',', ' '] ++ displayMembers (next :: rest)

end

def displayPlain : Json → LooseText
  | .string value => value
  | value => String.ofList (displayQuoted value)

def quotedText? (value : Json) : Option String :=
  if value.isWritable then some (String.ofList (displayQuoted value)) else none

def typeName : Json → String
  | .null => "NoneType"
  | .bool _ => "bool"
  | .int _ => "int"
  | .float _ => "float"
  | .string _ => "str"
  | .array _ => "list"
  | .object _ => "dict"

end TenantApi.Json
