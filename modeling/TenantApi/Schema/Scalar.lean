import TenantApi.Decimal.Integer
import TenantApi.Decimal.Power
import TenantApi.Schema.Basic
import TenantApi.Text.Case
import TenantApi.Time.Reader

/-!
Lenient reading of scalars. An integer may come as a whole float or as digits in text, a truth
value as 0 or 1 or as a word for it, a moment as text or as a count of seconds.
-/

namespace TenantApi.Schema

def dropUnderscores (text : List Char) : List Char :=
  let isDouble := (text.zip (text.drop 1)).contains ('_', '_')
  if text.head? = some '_' || text.getLast? = some '_' || isDouble then text
  else text.filter (· ≠ '_')

/-- The text after a run of zeros and underscores, which must begin with a zero; of a run that is
the whole text its last character is left, and before a point its last zero. -/
def dropLeadingZeros (last : Char) : List Char → Option (List Char)
  | [] => some [last]
  | c :: rest =>
      if c = '0' || c = '_' then dropLeadingZeros c rest
      else if c = '.' then some (last :: c :: rest)
      else if c = '-' || Text.isAsciiDigit c then some (c :: rest)
      else none

def dropZerosInFront : List Char → Option (List Char)
  | [] => none
  | c :: rest =>
      if c = '0' then dropLeadingZeros c rest
      else if c = '-' || Text.isAsciiDigit c then some (c :: rest)
      else none

def dropZeroFraction (text : List Char) : List Char :=
  match text.reverse.dropWhile (· = '0') with
  | '.' :: rest => if text.getLast? = some '0' then rest.reverse else text
  | _ => text

def signedDigits? (text : List Char) : Option Int :=
  let signed : Bool × List Char := match text with
    | '-' :: rest => (true, rest)
    | rest => (false, rest)
  if signed.2.isEmpty || !signed.2.all Text.isAsciiDigit then none
  else some (Decimal.applySign signed.1 (Text.natOfDigits signed.2))

/-- An integer in text: blanks around it, one sign, zeros in front, single underscores between
digits, and a fraction of zeros are allowed. -/
def integerOfText? (text : List Char) : Option Int := do
  let trimmed := Text.trim Text.isSpace text
  let unsigned ← match trimmed with
    | '+' :: '-' :: _ => none
    | '+' :: rest => some rest
    | rest => some rest
  let digits ← dropZerosInFront unsigned
  signedDigits? (dropUnderscores (dropZeroFraction digits))

def isMachineInteger (n : Int) : Bool := -(Decimal.twoTo 63) ≤ n && n < Decimal.twoTo 63

/-- Floats count as integers only strictly between the bounds of machine integers. -/
def isNarrow (n : Int) : Bool := -(Decimal.twoTo 63) < n && n < Decimal.twoTo 63

def readInteger : Datum → Except (List Issue) Datum
  | .int value => .ok (.int value)
  | .bool value => .ok (.int (if value then 1 else 0))
  | .float value =>
      if !Decimal.isFinite value then fail .notFinite
      else match Decimal.whole? value with
        | none => fail .fractionalInteger
        | some whole => if isNarrow whole then .ok (.int whole) else fail .integerTooLarge
  | .text (.ragged _) => fail .brokenText
  | .text (.plain value) =>
      if Decimal.digitLimit < value.utf8ByteSize then fail .integerTooLarge
      else match integerOfText? value.toList with
        | some n => .ok (.int n)
        | none => fail .unreadableInteger
  | .choice member => match integerOfText? member.wire.toList with
    | some n => .ok (.int n)
    | none => fail .unreadableInteger
  | _ => fail .notInteger

def falseWords : List String := ["0", "off", "f", "false", "n", "no"]

def trueWords : List String := ["1", "on", "t", "true", "y", "yes"]

def readTruth : Datum → Except (List Issue) Datum
  | .bool value => .ok (.bool value)
  | .int 0 => .ok (.bool false)
  | .int 1 => .ok (.bool true)
  | .int value => if isMachineInteger value then fail .unreadableTruth else fail .notTruth
  | .float value => match Decimal.whole? value with
    | some 0 => .ok (.bool false)
    | some 1 => .ok (.bool true)
    | some whole => if isNarrow whole then fail .unreadableTruth else fail .notTruth
    | none => fail .notTruth
  | .text (.ragged _) => fail .brokenText
  | .text (.plain value) =>
      let word := String.ofList (Text.asciiLower value.toList)
      if falseWords.contains word then .ok (.bool false)
      else if trueWords.contains word then .ok (.bool true)
      else fail .unreadableTruth
  | _ => fail .notTruth

def momentProblem : Time.MomentFault → Problem
  | .notADate => .notDate
  | .outOfRange => .unreadableMoment

def ofMoment : Except Time.MomentFault Time.Moment → Except (List Issue) Datum
  | .ok moment => .ok (.moment moment)
  | .error fault => fail (momentProblem fault)

def readMoment : Datum → Except (List Issue) Datum
  | .moment value => .ok (.moment value)
  | .text (.ragged _) => fail .brokenText
  | .text (.plain value) => ofMoment (Time.readMoment value.toList)
  | .int value =>
      if isMachineInteger value then ofMoment (Time.ofCount value 0)
      else if Decimal.isFinite (Decimal.ofInt value) then fail .unreadableMoment
      else fail .notMoment
  | .float value => ofMoment (Time.ofNumber value)
  | _ => fail .notMoment

def decimalOfText? (negative : Bool) (text : List Char) : Option Float :=
  let isMark (c : Char) : Bool := c = 'e' || c = 'E'
  let mantissa := text.takeWhile (!isMark ·)
  let power := match text.dropWhile (!isMark ·) with
    | [] => some 0
    | _ :: '+' :: rest => if rest.head? = some '-' then none else signedDigits? rest
    | _ :: rest => signedDigits? rest
  let whole := mantissa.takeWhile (· ≠ '.')
  let places := (mantissa.dropWhile (· ≠ '.')).drop 1
  match power with
  | none => none
  | some power =>
      if (whole ++ places).isEmpty || !(whole ++ places).all Text.isAsciiDigit then none
      else some (Decimal.ofScientific negative (Text.natOfDigits (whole ++ places))
        (power - places.length))

def plainFloat? (text : List Char) : Option Float :=
  let signed := Decimal.splitSign text
  let word := String.ofList (Text.asciiLower signed.2)
  if word = "inf" || word = "infinity" then some (Decimal.infinity signed.1)
  else if word = "nan" then some Decimal.notANumber
  else decimalOfText? signed.1 signed.2

def floatOfText? (text : List Char) : Option Float :=
  match plainFloat? (Text.trim Text.isSpace text) with
  | some number => some number
  | none => plainFloat? (dropUnderscores text)

def readFloat : Json → Except Problem Float
  | .float value => .ok value
  | .int value => .ok (Decimal.ofInt value)
  | .bool value => .ok (if value then 1 else 0)
  | .string (.ragged _) => .error .brokenText
  | .string (.plain value) => match floatOfText? value.toList with
    | some number => .ok number
    | none => .error .unreadableFloat
  | _ => .error .notFloat

end TenantApi.Schema
