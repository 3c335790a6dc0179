import TenantApi.Decimal.Layout
import TenantApi.Json.Basic

/-!
Numbers as they are given: integers stay exact, and arithmetic with a float is that of floats.
-/

namespace TenantApi

inductive Number where
  | whole (value : Int)
  | broken (value : Float)
  deriving DecidableEq, Repr

namespace Number

def toFloat : Number → Float
  | .whole value => Decimal.ofInt value
  | .broken value => value

/-- Integers from this magnitude on have no float: it lies halfway between the largest one and the
power of two after it. -/
def floatBound : Nat := Decimal.twoTo 1024 - Decimal.twoTo 970

def isWithinFloats : Number → Bool
  | .whole value => value.natAbs < floatBound
  | .broken _ => true

/-- Whether two numbers have a sum and a difference; next to a float, an integer must be one too. -/
def combines : Number → Number → Bool
  | .whole _, .whole _ => true
  | a, b => a.isWithinFloats && b.isWithinFloats

def add : Number → Number → Number
  | .whole a, .whole b => .whole (a + b)
  | a, b => .broken (Decimal.sum a.toFloat b.toFloat)

def sub : Number → Number → Number
  | .whole a, .whole b => .whole (a - b)
  | a, b => .broken (Decimal.difference a.toFloat b.toFloat)

def below (bound : Number) (n : Int) : Bool :=
  match bound with
  | .whole value => value < n
  | .broken value => Decimal.compareInt? n value = some .gt

def atLeast (bound : Number) (n : Int) : Bool :=
  match bound with
  | .whole value => n ≤ value
  | .broken value =>
      let order := Decimal.compareInt? n value
      order = some .lt || order = some .eq

def toJson : Number → Json
  | .whole value => .int value
  | .broken value => .float value

def ofJson? : Json → Option Number
  | .int value => some (.whole value)
  | .float value => some (.broken value)
  | .bool value => some (.whole (if value then 1 else 0))
  | _ => none

end Number

end TenantApi
