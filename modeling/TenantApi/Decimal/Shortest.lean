import TenantApi.Decimal.Binary64
import TenantApi.Text.Digit

/-!
The shortest decimal that reads back as a given number. For one digit, two digits and so on the
two neighbours of the value on that decimal grid are read back; the first grid with a hit wins,
and of two hits the nearer, a tie going to the even last digit. Seventeen digits always suffice.
-/

namespace TenantApi.Decimal

structure Scientific where
  digits : Nat
  exponent : Int
  deriving DecidableEq, Repr

/-- The least `k` with `numerator / denominator < 10 ^ k`, for a positive fraction. -/
def pointPosition (numerator denominator : Nat) : Int :=
  if denominator ≤ numerator then (Text.natDigits (numerator / denominator)).length
  else
    let ceiling := (denominator + numerator - 1) / numerator
    1 - ((Text.natDigits (ceiling - 1)).length : Int)

def decimalGrid (numerator denominator : Nat) (exponent : Int) : Nat × Nat :=
  (numerator * tenTo (-exponent).toNat, denominator * tenTo exponent.toNat)

def Scientific.bits (d : Scientific) : Nat :=
  nearestBits (d.digits * tenTo d.exponent.toNat) (tenTo (-d.exponent).toNat)

/-- The better of the value's two neighbours on a grid, among those that read back. -/
def gridHit? (bits numerator denominator : Nat) (exponent : Int) : Option Scientific :=
  let grid := decimalGrid numerator denominator exponent
  let below : Scientific := ⟨grid.1 / grid.2, exponent⟩
  let above : Scientific := ⟨grid.1 / grid.2 + 1, exponent⟩
  let near : Scientific := ⟨roundDiv grid.1 grid.2, exponent⟩
  if near.digits ≠ 0 && near.bits = bits then some near
  else if below.digits ≠ 0 && below.bits = bits then some below
  else if above.bits = bits then some above
  else none

def Scientific.normalize (d : Scientific) : Scientific :=
  if d.digits = 0 then d
  else if d.digits % 10 = 0 then normalize ⟨d.digits / 10, d.exponent + 1⟩
  else d
termination_by d.digits
decreasing_by omega

def shortest (bits significand : Nat) (exponent : Int) : Scientific :=
  let value := fraction significand exponent
  let point := pointPosition value.1 value.2
  let hit := (List.range 17).findSome? fun count =>
    gridHit? bits value.1 value.2 (point - (count + 1 : Nat))
  match hit with
  | some d => d.normalize
  | none => ⟨significand * twoTo exponent.toNat * Nat.pow 5 (-exponent).toNat, min exponent 0⟩

/-- The digits of a number's shortest form and the place of the point: the magnitude is
`0.d₁d₂… * 10 ^ point`. Zero has the single digit 0 before the point. -/
def shortestDigits (x : Float) (significand : Nat) (exponent : Int) : List Char × Int :=
  if significand = 0 then (['0'], 1)
  else
    let d := shortest (x.toBits.toNat % twoTo 63) significand exponent
    let digits := Text.natDigits d.digits
    (digits, digits.length + d.exponent)

end TenantApi.Decimal
