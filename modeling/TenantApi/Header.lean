import TenantApi.Text.Ascii
import TenantApi.Text.Case

/-!
Header fields. A message carries a list of fields whose names differ only up to letter case.
Responses are read through a grouped view: one entry for each name in Title-Case, with the values
of all its fields in their order.
-/

namespace TenantApi

abbrev Fields := List (String × String)

inductive FieldValues where
  | single (value : String)
  | many (values : List String)
  deriving DecidableEq, Repr

abbrev Grouped := List (String × FieldValues)

namespace Header

def lowerName (name : String) : String := String.ofList (Text.asciiLower name.toList)

def titleName (name : String) : String := String.ofList (Text.title (Text.asciiLower name.toList))

def sameName (a b : String) : Bool := lowerName a == lowerName b

/-- Adds a value under a key, which keeps its place when it is there already. -/
def appendValue (key value : String) : List (String × List String) → List (String × List String)
  | [] => [(key, [value])]
  | entry :: rest =>
      if entry.1 = key then (key, entry.2 ++ [value]) :: rest
      else entry :: appendValue key value rest

def group (fields : Fields) : List (String × List String) :=
  fields.foldl (fun groups field => appendValue (titleName field.1) field.2 groups) []

def grouped (fields : Fields) : Grouped :=
  (group fields).map fun entry => (entry.1, .many entry.2)

def set (name value : String) : Fields → Fields
  | [] => [(name, value)]
  | field :: rest =>
      if field.1 = name then (name, value) :: rest else field :: set name value rest

def has (fields : Fields) (name : String) : Bool := fields.any fun field => sameName field.1 name

/-- The given fields, after those of the others that they do not replace. -/
def override (fields given : Fields) : Fields :=
  fields.filter (fun field => !has given field.1) ++ given

def requireAscii : Fields → Except Text.NotAscii Unit
  | [] => .ok ()
  | field :: rest =>
      match Text.requireAscii field.1, Text.requireAscii field.2 with
      | .error error, _ => .error error
      | .ok _, .error error => .error error
      | .ok _, .ok _ => requireAscii rest

/-- The first value under exactly this name; an empty single value is none. -/
def first? (headers : Grouped) (name : String) : Option String :=
  match headers.lookup name with
  | none => none
  | some (.single value) => if value = "" then none else some value
  | some (.many values) => values.head?

end Header

end TenantApi
