import TenantApi.Decimal.Binary64
import TenantApi.Text.Digit
import TenantApi.Time.Calendar

/-!
Moments: a date and a time of day to the microsecond, with the offset from universal time if it is
known. Years run from 1 to 9999. The text form names the microseconds only when there are some.
-/

namespace TenantApi.Time

structure Moment where
  date : Date
  hour : Nat
  minute : Nat
  second : Nat
  microsecond : Nat
  /-- Minutes ahead of universal time. -/
  offset : Option Int
  deriving DecidableEq, Repr

def isSupportedYear (year : Int) : Bool := 1 ≤ year && year ≤ 9999

def microsPerSecond : Nat := 1000000

def microsPerDay : Nat := 86400 * microsPerSecond

def Moment.ofMicros (micros : Int) : Moment :=
  let days := micros / microsPerDay
  let within := (micros % microsPerDay).toNat
  let seconds := within / microsPerSecond
  ⟨Date.ofDays days, seconds / 3600, seconds / 60 % 60, seconds % 60, within % microsPerSecond,
    some 0⟩

def two (n : Nat) : List Char := Text.paddedDigits 2 n

def offsetText (offset : Int) : List Char :=
  (if offset < 0 then '-' else '+') ::
    two (offset.natAbs / 60) ++ ':' :: two (offset.natAbs % 60)

def Date.text (date : Date) : List Char :=
  Text.paddedDigits 4 date.year.toNat ++ '-' :: two date.month ++ '-' :: two date.day

def Moment.clockText (m : Moment) : List Char :=
  two m.hour ++ ':' :: two m.minute ++ ':' :: two m.second

def Moment.chars (m : Moment) : List Char :=
  m.date.text ++ 'T' :: m.clockText ++
    (if m.microsecond = 0 then [] else '.' :: Text.paddedDigits 6 m.microsecond) ++
    (match m.offset with
      | none => []
      | some offset => offsetText offset)

def Moment.text (m : Moment) : String := String.ofList m.chars

def Moment.plainText (m : Moment) : List Char :=
  Text.intDigits m.date.year ++ '-' :: two m.date.month ++ '-' :: two m.date.day ++
    ' ' :: m.clockText

end TenantApi.Time
