import TenantApi.Text.Case
import TenantApi.Text.Split

/-!
Host labels beyond ASCII in their ASCII form: the ASCII letters first, then the others in rising
order as distances in a number system with variable digits (RFC 3492).
-/

namespace TenantApi.Url.Punycode

def digitChar (digit : Nat) : Char :=
  Char.ofNat (if digit < 26 then 97 + digit else 22 + digit)

def threshold (place bias : Nat) : Nat :=
  if place ≤ bias then 1 else if bias + 26 ≤ place then 26 else place - bias

/-- The digits of a distance. Each step divides, so fuel above the distance never runs out. -/
def digits : (fuel place bias distance : Nat) → List Char
  | 0, _, _, _ => []
  | fuel + 1, place, bias, distance =>
      let t := threshold place bias
      if distance < t then [digitChar distance]
      else
        digitChar (t + (distance - t) % (36 - t)) ::
          digits fuel (place + 36) bias ((distance - t) / (36 - t))

def adaptFrom : (fuel delta place : Nat) → Nat
  | 0, _, place => place
  | fuel + 1, delta, place =>
      if 455 < delta then adaptFrom fuel (delta / 35) (place + 36)
      else place + 36 * delta / (delta + 38)

def adapt (delta count : Nat) (isFirst : Bool) : Nat :=
  let halved := if isFirst then delta / 700 else delta / 2
  adaptFrom (halved + 1) (halved + halved / count) 0

structure State where
  delta : Nat
  bias : Nat
  handled : Nat
  output : List Char

def pass (code basic : Nat) : List Char → State → State
  | [], s => s
  | c :: rest, s =>
      if c.toNat < code then pass code basic rest { s with delta := s.delta + 1 }
      else if c.toNat = code then
        let written := digits (s.delta + 1) 36 s.bias s.delta
        pass code basic rest ⟨0, adapt s.delta (s.handled + 1) (s.handled = basic), s.handled + 1,
          s.output ++ written⟩
      else pass code basic rest s

def passes (basic : Nat) (label : List Char) : List Nat → Nat → State → State
  | [], _, s => s
  | code :: rest, previous, s =>
      let started := { s with delta := s.delta + (code - previous) * (s.handled + 1) }
      let done := pass code basic label started
      passes basic label rest (code + 1) { done with delta := done.delta + 1 }

def encode (label : List Char) : List Char :=
  let plain := label.filter fun c => c.toNat < 128
  let codes := ((label.filter fun c => 128 ≤ c.toNat).map Char.toNat).mergeSort.eraseDups
  let start : State := ⟨0, 72, plain.length, if plain.isEmpty then [] else plain ++ ['-']⟩
  (passes plain.length label codes 128 start).output

def encodeHost (host : List Char) : List Char :=
  Text.join ['.'] ((Text.splitAt '.' host).map fun label =>
    if Text.isAscii label then label else "xn--".toList ++ encode label)

end TenantApi.Url.Punycode
