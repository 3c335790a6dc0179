import TenantApi.Json.Basic
import TenantApi.Time.Moment
import TenantApi.WireEnum

/-!
Checked data. A datum is what a schema makes of a value: scalars, moments, members of enumerations,
lists and mappings, and records. A record keeps its declared fields apart from the further members
that came with it. Every structured value is also a datum, unchanged.
-/

namespace TenantApi

inductive Datum where
  | null
  | bool (value : Bool)
  | int (value : Int)
  | float (value : Float)
  | text (value : LooseText)
  | moment (value : Time.Moment)
  | choice (member : Member)
  | list (items : List Datum)
  | mapping (members : List (LooseText × Datum))
  | record (fields extras : List (LooseText × Datum))
  deriving Repr, Inhabited

abbrev Entries := List (LooseText × Datum)

namespace Datum

mutual

def ofJson : Json → Datum
  | .null => .null
  | .bool value => .bool value
  | .int value => .int value
  | .float value => .float value
  | .string value => .text value
  | .array items => .list (ofItems items)
  | .object members => .mapping (ofMembers members)

def ofItems : List Json → List Datum
  | [] => []
  | item :: rest => ofJson item :: ofItems rest

def ofMembers : List (LooseText × Json) → Entries
  | [] => []
  | (key, value) :: rest => (key, ofJson value) :: ofMembers rest

end

mutual

/-- Whether two data are the same, not-a-number counting as equal to itself. -/
def same : Datum → Datum → Bool
  | .null, .null => true
  | .bool a, .bool b => a == b
  | .int a, .int b => a == b
  | .float a, .float b => decide (a = b)
  | .text a, .text b => a == b
  | .moment a, .moment b => decide (a = b)
  | .choice a, .choice b => decide (a = b)
  | .list a, .list b => sameItems a b
  | .mapping a, .mapping b => sameEntries a b
  | .record a extrasA, .record b extrasB => sameEntries a b && sameEntries extrasA extrasB
  | _, _ => false

def sameItems : List Datum → List Datum → Bool
  | [], [] => true
  | a :: as, b :: bs => same a b && sameItems as bs
  | _, _ => false

def sameEntries : List (LooseText × Datum) → List (LooseText × Datum) → Bool
  | [], [] => true
  | (k, a) :: as, (l, b) :: bs => k == l && same a b && sameEntries as bs
  | _, _ => false

end

def insert (key : LooseText) (value : Datum) : Entries → Entries
  | [] => [(key, value)]
  | entry :: rest =>
      if entry.1 = key then (key, value) :: rest else entry :: insert key value rest

def insertAll (entries added : Entries) : Entries :=
  added.foldl (fun entries entry => insert entry.1 entry.2 entries) entries

mutual

/-- The dumped view: records become mappings of their fields, then of the further members, which
replace a field of the same name. -/
def view : Datum → Datum
  | .list items => .list (viewItems items)
  | .mapping members => .mapping (viewEntries members)
  | .record fields extras => .mapping (insertAll (viewEntries fields) (viewEntries extras))
  | value => value

def viewItems : List Datum → List Datum
  | [] => []
  | item :: rest => view item :: viewItems rest

def viewEntries : Entries → Entries
  | [] => []
  | (key, value) :: rest => (key, view value) :: viewEntries rest

end

def isNull : Datum → Bool
  | .null => true
  | _ => false

/-- A key as it is written: three U+FFFD stand for a half of a surrogate pair. -/
def writtenKey : LooseText → LooseText
  | .plain key => key
  | .ragged key => String.ofList (key.points.flatMap fun point =>
      List.replicate (if point.isHalf then 3 else 1) point.shown)

def mergeRagged (keys : List LooseText) (members : Members) : Members :=
  if keys.all (fun key => writtenKey key = key) then members
  else members.foldl (fun members m => Json.insert m.1 m.2 members) []

mutual

/-- The payload of a datum: fields that are null are left out of records at every depth, members
of enumerations are their wire strings, moments are text, and a float that is no number is null. -/
def payload : Datum → Json
  | .null => .null
  | .bool value => .bool value
  | .int value => .int value
  | .float value => if Decimal.isFinite value then .float value else .null
  | .text value => .string value
  | .moment value => .string value.text
  | .choice member => .string member.wire
  | .list items => .array (payloadItems items)
  | .mapping members =>
      .object (mergeRagged (members.map Prod.fst) (payloadEntries members))
  | .record fields extras => .object (payloadSet fields ++ payloadSet extras)

def payloadItems : List Datum → List Json
  | [] => []
  | item :: rest => payload item :: payloadItems rest

def payloadEntries : Entries → Members
  | [] => []
  | (key, value) :: rest => (writtenKey key, payload value) :: payloadEntries rest

def payloadSet : Entries → Members
  | [] => []
  | (key, value) :: rest =>
      if value.isNull then payloadSet rest else (key, payload value) :: payloadSet rest

end

mutual

def freeDepth : Datum → Nat
  | .list items => freeItemsDepth items + 1
  | .mapping members => freeEntriesDepth members + 1
  | _ => 1

def freeItemsDepth : List Datum → Nat
  | [] => 0
  | item :: rest => max (freeDepth item) (freeItemsDepth rest)

def freeEntriesDepth : Entries → Nat
  | [] => 0
  | (_, value) :: rest => max (freeDepth value) (freeEntriesDepth rest)

end

mutual

/-- The most levels of free-form data in a datum; what a mapping holds is free-form. -/
def payloadDepth : Datum → Nat
  | .list items => payloadItemsDepth items
  | .mapping members => freeEntriesDepth members
  | .record fields extras => max (payloadEntriesDepth fields) (payloadEntriesDepth extras)
  | _ => 0

def payloadItemsDepth : List Datum → Nat
  | [] => 0
  | item :: rest => max (payloadDepth item) (payloadItemsDepth rest)

def payloadEntriesDepth : Entries → Nat
  | [] => 0
  | (_, value) :: rest => max (payloadDepth value) (payloadEntriesDepth rest)

end

/-- Free-form data with more levels is taken to contain itself. -/
def depthLimit : Nat := 255

def payload? (datum : Datum) : Option Json :=
  if datum.payloadDepth ≤ depthLimit then some datum.payload else none

def field (datum : Datum) (name : String) : Datum :=
  match datum with
  | .record fields _ => (fields.lookup (.plain name)).getD .null
  | _ => .null

def textField (datum : Datum) (name : String) : LooseText :=
  match datum.field name with
  | .text value => value
  | .choice member => member.wire
  | _ => ""

end Datum

end TenantApi
