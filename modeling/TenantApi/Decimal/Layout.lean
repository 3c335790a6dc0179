import TenantApi.Decimal.Shortest

/-!
Texts of numbers. A `Layout` fixes what the shortest digits leave open: which magnitudes are
written with a point alone, and the words for the values that have no digits. The other forms
(fixed places, fixed significant digits, scientific) are for message patterns.
-/

namespace TenantApi.Decimal

structure Layout where
  nan : String
  infinity : String
  negativeInfinity : String
  /-- The exponents from `leastPlain` up to, not including, `mostPlain` are written out. -/
  leastPlain : Int
  mostPlain : Int

def plainLayout : Layout := ⟨"nan", "inf", "-inf", -4, 16⟩

def structuredLayout : Layout := ⟨"NaN", "Infinity", "-Infinity", -4, 16⟩

def exponentText (exponent : Int) : List Char :=
  let digits := Text.natDigits exponent.natAbs
  (if exponent < 0 then '-' else '+') :: (if digits.length < 2 then '0' :: digits else digits)

def plainText (digits : List Char) (point : Int) : List Char :=
  if point ≤ 0 then '0' :: '.' :: List.replicate (-point).toNat '0' ++ digits
  else if (digits.length : Int) ≤ point then
    digits ++ List.replicate (point.toNat - digits.length) '0' ++ ['.', '0']
  else digits.take point.toNat ++ '.' :: digits.drop point.toNat

def scientificText (digits : List Char) (point : Int) : List Char :=
  match digits with
  | [] => []
  | first :: rest =>
      first :: (if rest.isEmpty then [] else '.' :: rest) ++ 'e' :: exponentText (point - 1)

def render (layout : Layout) (x : Float) : List Char :=
  match Parts.ofFloat x with
  | .nan => layout.nan.toList
  | .infinite negative => (if negative then layout.negativeInfinity else layout.infinity).toList
  | .finite negative significand exponent =>
      let shown := shortestDigits x significand exponent
      let magnitude :=
        if layout.leastPlain < shown.2 && shown.2 ≤ layout.mostPlain then
          plainText shown.1 shown.2
        else scientificText shown.1 shown.2
      if negative then '-' :: magnitude else magnitude

def renderString (layout : Layout) (x : Float) : String := String.ofList (render layout x)

def fixedText (places numerator denominator : Nat) : List Char :=
  let scaled := roundDiv (numerator * tenTo places) denominator
  let whole := Text.natDigits (scaled / tenTo places)
  if places = 0 then whole else whole ++ '.' :: Text.paddedDigits places (scaled % tenTo places)

def fixed (places : Nat) (x : Float) : List Char :=
  match Parts.ofFloat x with
  | .nan => plainLayout.nan.toList
  | .infinite negative =>
      (if negative then plainLayout.negativeInfinity else plainLayout.infinity).toList
  | .finite negative significand exponent =>
      let value := fraction significand exponent
      (if negative then ['-'] else []) ++ fixedText places value.1 value.2

def significantDigits (count numerator denominator : Nat) : List Char × Int :=
  let point := pointPosition numerator denominator
  let grid := decimalGrid numerator denominator (point - count)
  let rounded := roundDiv grid.1 grid.2
  if tenTo count ≤ rounded then (Text.natDigits (rounded / 10), point + 1)
  else (Text.natDigits rounded, point)

def exponentForm (places numerator denominator : Nat) : List Char :=
  if numerator = 0 then
    scientificText (List.replicate (places + 1) '0') 1
  else
    let shown := significantDigits (places + 1) numerator denominator
    scientificText shown.1 shown.2

def dropTrailingZeros (text : List Char) : List Char :=
  if text.contains '.' then
    let kept := (text.reverse.dropWhile (· == '0'))
    (match kept with
      | '.' :: rest => rest
      | _ => kept).reverse
  else text

/-- Fixed or scientific form by magnitude, with `count` significant digits; zeros at the end are
kept or not. -/
def generalForm (keepZeros : Bool) (count numerator denominator : Nat) : List Char :=
  let count := max count 1
  let shown := if numerator = 0 then (List.replicate count '0', 1)
    else significantDigits count numerator denominator
  let tidy (text : List Char) : List Char := if keepZeros then text else dropTrailingZeros text
  let exponent := shown.2 - 1
  if -4 ≤ exponent && exponent < count then
    tidy (fixedText ((count : Int) - 1 - exponent).toNat numerator denominator)
  else
    match shown.1 with
    | [] => []
    | first :: rest =>
        tidy (first :: (if rest.isEmpty then [] else '.' :: rest)) ++ 'e' :: exponentText exponent

end TenantApi.Decimal
