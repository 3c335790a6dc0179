import TenantApi.Text.Loose

/-!
Structured values: what requests and responses carry. Integers have any size and differ from
floating-point numbers of the same value; strings and keys may hold halves of surrogate pairs; an
object keeps its members in order, and a key occurs once when the object was built by `insert`.
Equality is that of the data: not-a-number equals itself, and zero differs from negative zero.
-/

namespace TenantApi

inductive Json where
  | null
  | bool (value : Bool)
  | int (value : Int)
  | float (value : Float)
  | string (value : LooseText)
  | array (items : List Json)
  | object (members : List (LooseText × Json))
  deriving Repr, Inhabited

abbrev Members := List (LooseText × Json)

namespace Json

mutual

def decEq : (a b : Json) → Decidable (a = b)
  | .null, .null => isTrue rfl
  | .bool a, .bool b => if h : a = b then isTrue (by rw [h]) else isFalse (by simpa using h)
  | .int a, .int b => if h : a = b then isTrue (by rw [h]) else isFalse (by simpa using h)
  | .float a, .float b => if h : a = b then isTrue (by rw [h]) else isFalse (by simpa using h)
  | .string a, .string b => if h : a = b then isTrue (by rw [h]) else isFalse (by simpa using h)
  | .array a, .array b => match decEqItems a b with
    | isTrue h => isTrue (by rw [h])
    | isFalse h => isFalse (by simpa using h)
  | .object a, .object b => match decEqMembers a b with
    | isTrue h => isTrue (by rw [h])
    | isFalse h => isFalse (by simpa using h)
  | .null, .bool _ | .null, .int _ | .null, .float _ | .null, .string _ | .null, .array _
  | .null, .object _ | .bool _, .null | .bool _, .int _ | .bool _, .float _ | .bool _, .string _
  | .bool _, .array _ | .bool _, .object _ | .int _, .null | .int _, .bool _ | .int _, .float _
  | .int _, .string _ | .int _, .array _ | .int _, .object _ | .float _, .null
  | .float _, .bool _ | .float _, .int _ | .float _, .string _ | .float _, .array _
  | .float _, .object _ | .string _, .null | .string _, .bool _ | .string _, .int _
  | .string _, .float _ | .string _, .array _ | .string _, .object _ | .array _, .null
  | .array _, .bool _ | .array _, .int _ | .array _, .float _ | .array _, .string _
  | .array _, .object _ | .object _, .null | .object _, .bool _ | .object _, .int _
  | .object _, .float _ | .object _, .string _ | .object _, .array _ => isFalse (by simp)

def decEqItems : (a b : List Json) → Decidable (a = b)
  | [], [] => isTrue rfl
  | a :: as, b :: bs => match decEq a b, decEqItems as bs with
    | isTrue h, isTrue hs => isTrue (by rw [h, hs])
    | isFalse h, _ => isFalse (by simp [h])
    | _, isFalse hs => isFalse (by simp [hs])
  | [], _ :: _ | _ :: _, [] => isFalse (by simp)

def decEqMembers : (a b : List (LooseText × Json)) → Decidable (a = b)
  | [], [] => isTrue rfl
  | (k, a) :: as, (l, b) :: bs =>
      if hk : k = l then match decEq a b, decEqMembers as bs with
        | isTrue h, isTrue hs => isTrue (by rw [hk, h, hs])
        | isFalse h, _ => isFalse (by simp [h])
        | _, isFalse hs => isFalse (by simp [hs])
      else isFalse (by simp [hk])
  | [], _ :: _ | _ :: _, [] => isFalse (by simp)

end

instance : DecidableEq Json := decEq

def get? (value : Json) (key : LooseText) : Option Json :=
  match value with
  | .object members => members.lookup key
  | _ => none

def insert (key : LooseText) (value : Json) : Members → Members
  | [] => [(key, value)]
  | member :: rest =>
      if member.1 = key then (key, value) :: rest else member :: insert key value rest

def truthWord (value : Bool) : String := if value then "true" else "false"

def isTruthy : Json → Bool
  | .null => false
  | .bool value => value
  | .int value => value ≠ 0
  | .float value => value != 0.0
  | .string value => value ≠ .plain ""
  | .array items => !items.isEmpty
  | .object members => !members.isEmpty

end Json

end TenantApi
