import TenantApi.Text.Blank
import TenantApi.Text.Digit

/-!
Integer literals. `readInteger` takes the liberal form: blanks around the literal, one sign, the
decimal digits of any script, and single underscores between digits. At most `digitLimit` digits
are read, as many as structured text may have in one integer, and as many as an integer may have
that is written.
-/

namespace TenantApi.Decimal

/-- Integers with more digits than this are neither read nor written. -/
def digitLimit : Nat := 4300

def isWritable (n : Int) : Bool := (Text.natDigits n.natAbs).length ≤ digitLimit

def unwritableText : String :=
  "Exceeds the limit (" ++ toString digitLimit ++
    " digits) for integer string conversion; use sys.set_int_max_str_digits() to increase the limit"

/-- Digits, with single underscores between them. `afterDigit` says whether a digit precedes. -/
def digitRun (digit? : Char → Option Nat) : (afterDigit : Bool) → List Char → Option (List Nat)
  | afterDigit, [] => if afterDigit then some [] else none
  | afterDigit, c :: rest =>
      if c = '_' then
        if afterDigit then digitRun digit? false rest else none
      else match digit? c with
        | some value => (digitRun digit? true rest).map (value :: ·)
        | none => none

def valueOfDigits (digits : List Nat) : Nat := digits.foldl (fun value d => value * 10 + d) 0

def splitSign : List Char → Bool × List Char
  | '-' :: rest => (true, rest)
  | '+' :: rest => (false, rest)
  | text => (false, text)

def applySign (negative : Bool) (magnitude : Nat) : Int :=
  if negative then -(magnitude : Int) else magnitude

def readInteger (text : List Char) : Option Int :=
  let signed := splitSign (Text.trim Text.isBlank text)
  match digitRun Text.decimalValue? false signed.2 with
  | none => none
  | some digits =>
      if digitLimit < digits.length then none
      else some (applySign signed.1 (valueOfDigits digits))

end TenantApi.Decimal
