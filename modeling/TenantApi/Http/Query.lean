import TenantApi.Json.Display
import TenantApi.Text.Split
import TenantApi.Url.Percent

/-!
Parameters of calls and fields of forms. A list stands for one pair for each of its items, so a name
may occur many times; every value is written as plain text. In the encoded form a space is a plus
sign and every other character that is not unreserved is escaped, so a pair is told from its
neighbours by its `&` and `=`. Integers that are too long have no text, and text with a half of a
surrogate pair has no encoded form; the integers are looked for first.
-/

namespace TenantApi.Query

inductive Fault where
  /-- An integer with too many digits. -/
  | overlong
  | halves (found : LoneHalves)
  deriving DecidableEq, Repr

def Fault.message : Fault → String
  | .overlong => Decimal.unwritableText
  | .halves found => found.message

def clean (params : Members) : Members :=
  params.filterMap fun param => match param.2 with
    | .null => none
    | .bool value => some (param.1, .string (Json.truthWord value))
    | value => some (param.1, value)

/-- The parameters of a call as they are sent. To have none is not the same as to have none left. -/
def cleaned (params : Option Members) : Option Members := params.map clean

def valueText : Json → LooseText
  | .null => ""
  | .bool value => Json.truthWord value
  | value => value.displayPlain

def valueItems : Json → List Json
  | .array items => items
  | value => [value]

def pairs (params : Members) : List (LooseText × LooseText) :=
  params.flatMap fun param => (valueItems param.2).map fun value => (param.1, valueText value)

/-- Why some pairs have no encoded form: the first text with a half in it, names before values. -/
def pairsFault? (pairs : List (LooseText × LooseText)) : Option Fault :=
  (pairs.flatMap fun pair => [pair.1, pair.2]).findSome? fun text =>
    (LoneHalves.find? text.points).map .halves

def fault? (params : Members) : Option Fault :=
  if Json.membersWritable params then pairsFault? (pairs params) else some .overlong

def escapeChar (c : Char) : List Char :=
  if c = ' ' then ['+'] else Url.escapeChar Url.isUnreserved c

def escape (text : LooseText) : List Char := text.chars.flatMap escapeChar

def encodePair (pair : LooseText × LooseText) : List Char := escape pair.1 ++ '=' :: escape pair.2

def encode (params : Members) : List Char := Text.join ['&'] ((pairs params).map encodePair)

end TenantApi.Query
