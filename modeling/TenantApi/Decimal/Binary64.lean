import TenantApi.Decimal.Integer
import TenantApi.Decimal.Power

/-!
Floating-point numbers as exact fractions. `Parts.ofFloat` reads the sign, the significand and the
power of two off the bits; `nearest` goes the other way, from any fraction of natural numbers to
the nearest number of the format, ties to the even significand. Every text form of a number is
built from these two, so no rounding happens anywhere else.
-/

namespace TenantApi.Decimal

inductive Parts where
  | nan
  | infinite (negative : Bool)
  /-- The magnitude is `significand * 2 ^ exponent`. -/
  | finite (negative : Bool) (significand : Nat) (exponent : Int)
  deriving DecidableEq, Repr

def Parts.ofBits (bits : Nat) : Parts :=
  let negative := bits / twoTo 63 % 2 == 1
  let biased : Nat := bits / twoTo 52 % twoTo 11
  let fraction : Nat := bits % twoTo 52
  if biased = 2047 then (if fraction = 0 then .infinite negative else .nan)
  else if biased = 0 then .finite negative fraction (-1074)
  else .finite negative (twoTo 52 + fraction) ((biased : Int) - 1075)

def Parts.ofFloat (x : Float) : Parts := .ofBits x.toBits.toNat

def roundDiv (numerator denominator : Nat) : Nat :=
  let quotient := numerator / denominator
  let twice := 2 * (numerator % denominator)
  if twice < denominator then quotient
  else if denominator < twice then quotient + 1
  else if quotient % 2 = 0 then quotient else quotient + 1

def scaleDown (numerator denominator : Nat) (exponent : Int) : Nat × Nat :=
  (numerator * twoTo (-exponent).toNat, denominator * twoTo exponent.toNat)

/-- The power of two that leaves a quotient of 53 binary digits, or the least one there is. -/
def unitExponent (numerator denominator : Nat) : Int :=
  let guess : Int := max (-1074) ((numerator.log2 : Int) - denominator.log2 - 53)
  let scaled := scaleDown numerator denominator guess
  if twoTo 53 ≤ scaled.1 / scaled.2 then guess + 1 else guess

def infinityBits : Nat := 2047 * twoTo 52

/-- The bits of the number nearest to a fraction. A significand that rounds up to the next power
of two carries into the exponent field, which is just what the format wants. -/
def nearestBits (numerator denominator : Nat) : Nat :=
  let exponent := unitExponent numerator denominator
  let scaled := scaleDown numerator denominator exponent
  min infinityBits ((exponent + 1074).toNat * twoTo 52 + roundDiv scaled.1 scaled.2)

def signed (negative : Bool) (bits : Nat) : Float :=
  Float.ofBits (UInt64.ofNat (if negative then bits + twoTo 63 else bits))

def nearest (negative : Bool) (numerator denominator : Nat) : Float :=
  signed negative (if numerator = 0 then 0 else nearestBits numerator denominator)

/-- The number nearest to `digits * 10 ^ exponent`. Outside the exponents that matter the answer
is infinity or zero, whatever the digits. -/
def ofScientific (negative : Bool) (digits : Nat) (exponent : Int) : Float :=
  let magnitude : Int := (Nat.log2 digits : Int) / 4 + exponent
  if digits = 0 then signed negative 0
  else if magnitude > 400 then signed negative infinityBits
  else if (Nat.log2 digits : Int) + exponent < -400 then signed negative 0
  else nearest negative (digits * tenTo exponent.toNat) (tenTo (-exponent).toNat)

def infinity (negative : Bool) : Float := signed negative infinityBits

def notANumber : Float := Float.ofBits 0x7ff8000000000000

def isFinite (x : Float) : Bool :=
  match Parts.ofFloat x with
  | .finite .. => true
  | _ => false

def fraction (significand : Nat) (exponent : Int) : Nat × Nat :=
  (significand * twoTo exponent.toNat, twoTo (-exponent).toNat)

def truncate? (x : Float) : Option Int :=
  match Parts.ofFloat x with
  | .finite negative significand exponent =>
      let value := fraction significand exponent
      let whole : Nat := value.1 / value.2
      some (if negative then -(whole : Int) else whole)
  | _ => none

def floor? (x : Float) : Option Int :=
  match Parts.ofFloat x with
  | .finite negative significand exponent =>
      let value := fraction significand exponent
      let numerator : Int := if negative then -(value.1 : Int) else value.1
      some (numerator / value.2)
  | _ => none

/-- The nearest integer, a half away from zero. -/
def roundAway? (x : Float) : Option Int :=
  match Parts.ofFloat x with
  | .finite negative significand exponent =>
      let value := fraction significand exponent
      let whole : Nat := (2 * value.1 + value.2) / (2 * value.2)
      some (if negative then -(whole : Int) else whole)
  | _ => none

def whole? (x : Float) : Option Int :=
  match Parts.ofFloat x with
  | .finite negative significand exponent =>
      let value := fraction significand exponent
      if value.1 % value.2 = 0 then
        let whole : Nat := value.1 / value.2
        some (if negative then -(whole : Int) else whole)
      else none
  | _ => none

/-- The nearest integer, a half to the even neighbour. -/
def round? (x : Float) : Option Int :=
  match Parts.ofFloat x with
  | .finite negative significand exponent =>
      let value := fraction significand exponent
      let whole := roundDiv value.1 value.2
      some (if negative then -(whole : Int) else whole)
  | _ => none

def ofInt (n : Int) : Float := nearest (n < 0) n.natAbs 1

/-- The number nearest to the sum of two finite numbers, given as parts. A sum of zero is negative
only when both are. -/
def nearestSum (a : Bool) (m : Nat) (e : Int) (b : Bool) (n : Nat) (f : Int) : Float :=
  let left := fraction m e
  let right := fraction n f
  let total := applySign a (left.1 * right.2) + applySign b (right.1 * left.2)
  if total = 0 then signed (a && b) 0 else nearest (total < 0) total.natAbs (left.2 * right.2)

def sum (x y : Float) : Float :=
  match Parts.ofFloat x, Parts.ofFloat y with
  | .finite a m e, .finite b n f => nearestSum a m e b n f
  | _, _ => x + y

def difference (x y : Float) : Float :=
  match Parts.ofFloat x, Parts.ofFloat y with
  | .finite a m e, .finite b n f => nearestSum a m e (!b) n f
  | _, _ => x - y

def roundPlaces (places : Nat) (x : Float) : Float :=
  match Parts.ofFloat x with
  | .finite negative significand exponent =>
      let value := fraction significand exponent
      nearest negative (roundDiv (value.1 * tenTo places) value.2) (tenTo places)
  | _ => x

/-- How an integer and a number compare, without rounding either. Nothing compares with
not-a-number. -/
def compareInt? (n : Int) (x : Float) : Option Ordering :=
  match Parts.ofFloat x with
  | .nan => none
  | .infinite negative => some (if negative then .gt else .lt)
  | .finite negative significand exponent =>
      let value := fraction significand exponent
      let signedNumerator : Int := if negative then -(value.1 : Int) else value.1
      some (compare (n * value.2) signedNumerator)

end TenantApi.Decimal
