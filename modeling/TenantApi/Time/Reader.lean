import TenantApi.Decimal.Power
import TenantApi.Time.Moment

/-!
Reading moments. A text is a date and a time in the form of RFC 3339, or a count of seconds, or a
date alone. A count beyond `secondsLimit` either way is taken as milliseconds.
-/

namespace TenantApi.Time

inductive MomentFault where
  /-- Neither a moment nor a date. -/
  | notADate
  /-- A moment outside the supported years, or a number that is none. -/
  | outOfRange
  deriving DecidableEq, Repr

def takeDigits (count : Nat) (text : List Char) : Option (Nat × List Char) :=
  let digits := text.take count
  if digits.length = count && digits.all Text.isAsciiDigit then
    some (Text.natOfDigits digits, text.drop count)
  else none

def takeChar (c : Char) : List Char → Option (List Char)
  | [] => none
  | first :: rest => if first = c then some rest else none

def takeDate (text : List Char) : Option (Date × List Char) := do
  let (year, rest) ← takeDigits 4 text
  let rest ← takeChar '-' rest
  let (month, rest) ← takeDigits 2 rest
  let rest ← takeChar '-' rest
  let (day, rest) ← takeDigits 2 rest
  let date : Date := ⟨year, month, day⟩
  if date.isValid then some (date, rest) else none

def fractionMicros (digits : List Char) : Nat :=
  let kept := digits.take 6
  Text.natOfDigits kept * Decimal.tenTo (6 - kept.length)

def takeFraction (text : List Char) : Option (Nat × List Char) :=
  match text with
  | c :: rest =>
      if c = '.' || c = ',' then
        let digits := rest.takeWhile Text.isAsciiDigit
        if digits.isEmpty then none
        else some (fractionMicros digits, rest.dropWhile Text.isAsciiDigit)
      else some (0, text)
  | [] => some (0, [])

def takeSeconds (text : List Char) : Option (Nat × Nat × List Char) :=
  match text with
  | ':' :: rest => do
      let (second, rest) ← takeDigits 2 rest
      let (micros, rest) ← takeFraction rest
      if second < 60 then some (second, micros, rest) else none
  | _ => some (0, 0, text)

def takeOffset (text : List Char) : Option (Option Int) :=
  match text with
  | [] => some none
  | ['Z'] | ['z'] => some (some 0)
  | sign :: rest => do
      let negative ← if sign = '+' then some false
        else if sign = '-' || sign = '\u2212' then some true else none
      let (hours, rest) ← takeDigits 2 rest
      let rest := (takeChar ':' rest).getD rest
      let (minutes, rest) ← takeDigits 2 rest
      if rest.isEmpty && hours < 24 && minutes < 60 then
        let offset : Int := (hours * 60 + minutes : Nat)
        some (some (if negative then -offset else offset))
      else none

def isDateSeparator (c : Char) : Bool := c = 'T' || c = 't' || c = ' ' || c = '_'

def readLong (text : List Char) : Option Moment := do
  let (date, rest) ← takeDate text
  match rest with
  | separator :: rest =>
      if !isDateSeparator separator then none
      let (hour, rest) ← takeDigits 2 rest
      let rest ← takeChar ':' rest
      let (minute, rest) ← takeDigits 2 rest
      let (second, micros, rest) ← takeSeconds rest
      let offset ← takeOffset rest
      if hour < 24 && minute < 60 then some ⟨date, hour, minute, second, micros, offset⟩ else none
  | [] => none

def secondsLimit : Nat := 20000000000

def ofCount (count : Int) (micros : Int) : Except MomentFault Moment :=
  let whole : Int :=
    if count.natAbs ≤ secondsLimit then count * microsPerSecond else count * 1000
  let moment := Moment.ofMicros (whole + micros)
  if isSupportedYear moment.date.year then .ok moment else .error .outOfRange

def microsOf (part : Float) : Int := (Decimal.roundAway? (part * 1000000)).getD 0

def ofNumber (x : Float) : Except MomentFault Moment :=
  match Decimal.floor? x, Decimal.truncate? x with
  | some below, some whole => ofCount below (microsOf (x - Decimal.ofInt whole).abs)
  | _, _ => .error .outOfRange

/-- A count written in decimal, with at most one point and at least one digit before it. -/
inductive Count where
  | whole (value : Int)
  | broken (value : Float)

def addFraction : (value unit : Float) → List Char → Float
  | value, _, [] => value
  | value, unit, c :: rest =>
      addFraction (value + Decimal.ofInt (c.toNat - 48 : Nat) / unit) (unit * 10) rest

def readCount (text : List Char) : Option Count :=
  let signed : Bool × List Char := match text with
    | '-' :: rest => (true, rest)
    | '+' :: rest => (false, rest)
    | _ => (false, text)
  let digits := signed.2.takeWhile Text.isAsciiDigit
  let whole := Text.natOfDigits digits
  if digits.isEmpty || Decimal.twoTo 63 ≤ whole then none
  else match signed.2.dropWhile Text.isAsciiDigit with
    | [] => some (.whole (if signed.1 then -(whole : Int) else whole))
    | '.' :: places =>
        if places.all Text.isAsciiDigit then
          let value := addFraction (Decimal.ofInt whole) 10 places
          some (.broken (if signed.1 then -value else value))
        else none
    | _ => none

/-- A broken count is split at its floor, so that the part after the point is never negative. -/
def ofBroken (value : Float) : Except MomentFault Moment :=
  let seconds := if value.abs > Decimal.ofInt secondsLimit then value / 1000 else value
  match Decimal.floor? seconds with
  | some whole => ofCount whole (microsOf (seconds - Decimal.ofInt whole))
  | none => .error .outOfRange

/-- A date without a time is its midnight, at no known offset. -/
def readDate (text : List Char) : Except MomentFault Moment :=
  match takeDate text with
  | some (date, []) =>
      if isSupportedYear date.year then .ok ⟨date, 0, 0, 0, 0, none⟩ else .error .outOfRange
  | _ => .error .notADate

def readMoment (text : List Char) : Except MomentFault Moment :=
  match readLong text with
  | some moment => if isSupportedYear moment.date.year then .ok moment else .error .outOfRange
  | none =>
      let counted := match readCount text with
        | some (.whole value) => ofCount value 0
        | some (.broken value) => ofBroken value
        | none => .error .notADate
      match counted with
      | .ok moment => .ok moment
      | .error _ => readDate text

end TenantApi.Time
