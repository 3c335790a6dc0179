import TenantApi.Bytes.Wide
import TenantApi.Decimal.Binary64
import TenantApi.Decimal.Integer
import TenantApi.Json.Basic
import TenantApi.Text.Split

/-!
Reading structured text. The reader accepts one value with blanks around it, the words `NaN`,
`Infinity` and `-Infinity` as numbers, and repeated keys, of which the last counts. A refusal names
what was wrong and the character where it was seen. Two escapes for the halves of a surrogate pair
make one character; every other half stays as it is. Halves that the text holds unescaped are beside
it: the text shows U+FFFD in their places. Texts may nest to any depth.
-/

namespace TenantApi.Json

inductive Fault where
  | byteOrderMark
  | value
  | key
  | colon
  | comma
  | extraData
  | unterminatedString
  | controlCharacter
  | escape
  | unicodeEscape
  deriving DecidableEq, Repr

def Fault.text : Fault → String
  | .byteOrderMark => "Unexpected UTF-8 BOM (decode using utf-8-sig)"
  | .value => "Expecting value"
  | .key => "Expecting property name enclosed in double quotes"
  | .colon => "Expecting ':' delimiter"
  | .comma => "Expecting ',' delimiter"
  | .extraData => "Extra data"
  | .unterminatedString => "Unterminated string starting at"
  | .controlCharacter => "Invalid control character at"
  | .escape => "Invalid \\escape"
  | .unicodeEscape => "Invalid \\uXXXX escape"

inductive ReadError where
  /-- Line and column count from one, the index from zero. -/
  | malformed (fault : Fault) (line column index : Nat)
  | tooManyDigits (count : Nat)
  deriving DecidableEq, Repr

def tooManyDigitsText (count : Nat) : String :=
  "Exceeds the limit (" ++ toString Decimal.digitLimit ++
    " digits) for integer string conversion: value has " ++ toString count ++
    " digits; use sys.set_int_max_str_digits() to increase the limit"

def ReadError.message : ReadError → String
  | .malformed fault line column index =>
      fault.text ++ ": line " ++ toString line ++ " column " ++ toString column ++
        " (char " ++ toString index ++ ")"
  | .tooManyDigits count => tooManyDigitsText count

/-- Why scanning stopped; `left` is the number of characters from the fault to the end. -/
inductive Stop where
  | fault (fault : Fault) (left : Nat)
  | tooManyDigits (count : Nat)
  deriving DecidableEq, Repr

abbrev Scan (α : Type) := Except Stop (α × List Char)

def isGap (c : Char) : Bool := c = ' ' || c = '\t' || c = '\n' || c = '\r'

def skipGaps (text : List Char) : List Char := text.dropWhile isGap

def hexCode? (a b c d : Char) : Option Nat := do
  let a ← Text.hexValue? a
  let b ← Text.hexValue? b
  let c ← Text.hexValue? c
  let d ← Text.hexValue? d
  return ((a * 16 + b) * 16 + c) * 16 + d

def simpleEscape? : Char → Option Char
  | '"' => some '"'
  | '\\' => some '\\'
  | '/' => some '/'
  | 'b' => some '\x08'
  | 'f' => some '\x0c'
  | 'n' => some '\n'
  | 'r' => some '\r'
  | 't' => some '\t'
  | _ => none

/-- The halves in a text, found by the number of characters after them. -/
abbrev Halves := Nat → Option (Fin 2048)

def noHalves : Halves := fun _ => none

def Halves.pointAt (halves : Halves) (c : Char) (rest : List Char) : Point :=
  if c = '\ufffd' then ((halves rest.length).map .half).getD (.char c) else .char c

inductive Sign where
  | point (point : Point)
  /-- An escape by code. -/
  | code (code : Nat)
  deriving DecidableEq, Repr

/-- The points of signs; two escapes join when they are the halves of one character. -/
def pointsOf : List Sign → List Point
  | [] => []
  | .point point :: rest => point :: pointsOf rest
  | .code high :: .code low :: rest =>
      if Wide.isHigh high && Wide.isLow low then
        .char (Char.ofNat (Wide.joinHalves high low)) :: pointsOf rest
      else .ofCode high :: pointsOf (.code low :: rest)
  | .code code :: rest => .ofCode code :: pointsOf rest

/-- The signs of a string. All of the text after the opening quote is in `opened`, so that a string
without an end can name its start. -/
def scanSigns (halves : Halves) (opened : List Char) : List Char → Scan (List Sign)
  | [] => .error (.fault .unterminatedString (opened.length + 1))
  | '"' :: rest => .ok ([], rest)
  | ['\\'] => .error (.fault .unterminatedString (opened.length + 1))
  | '\\' :: 'u' :: a :: b :: c :: d :: next :: rest =>
      match hexCode? a b c d with
      | some code => (scanSigns halves opened (next :: rest)).map fun r => (.code code :: r.1, r.2)
      | none => .error (.fault .unicodeEscape (rest.length + 6))
  | '\\' :: 'u' :: rest => .error (.fault .unicodeEscape (rest.length + 1))
  | '\\' :: c :: rest =>
      match simpleEscape? c with
      | some meant => (scanSigns halves opened rest).map fun r => (.point (.char meant) :: r.1, r.2)
      | none => .error (.fault .escape (rest.length + 2))
  | c :: rest =>
      if c.toNat < 0x20 then .error (.fault .controlCharacter (rest.length + 1))
      else (scanSigns halves opened rest).map fun r => (.point (halves.pointAt c rest) :: r.1, r.2)

def scanString (halves : Halves) (rest : List Char) : Scan LooseText :=
  (scanSigns halves rest rest).map fun r => (.ofPoints (pointsOf r.1), r.2)

def scanFraction : List Char → Option (List Char) × List Char
  | '.' :: c :: rest =>
      if Text.isAsciiDigit c then
        (some ((c :: rest).takeWhile Text.isAsciiDigit), (c :: rest).dropWhile Text.isAsciiDigit)
      else (none, '.' :: c :: rest)
  | text => (none, text)

def scanExponent : List Char → Option Int × List Char
  | c :: rest =>
      if c = 'e' || c = 'E' then
        let signed := Decimal.splitSign rest
        let digits := signed.2.takeWhile Text.isAsciiDigit
        if digits.isEmpty then (none, c :: rest)
        else
          (some (Decimal.applySign signed.1 (Text.natOfDigits digits)),
            signed.2.dropWhile Text.isAsciiDigit)
      else (none, c :: rest)
  | [] => (none, [])

def scanWhole : List Char → Option (List Char × List Char)
  | [] => none
  | c :: rest =>
      if c = '0' then some (['0'], rest)
      else if Text.isAsciiDigit c then
        some ((c :: rest).takeWhile Text.isAsciiDigit, (c :: rest).dropWhile Text.isAsciiDigit)
      else none

def scanNumber (text : List Char) : Scan Json :=
  let negative := text.head? = some '-'
  match scanWhole (if negative then text.drop 1 else text) with
  | none => .error (.fault .value text.length)
  | some (whole, afterWhole) =>
      let fraction := scanFraction afterWhole
      let exponent := scanExponent fraction.2
      match fraction.1, exponent.1 with
      | none, none =>
          if Decimal.digitLimit < whole.length then .error (.tooManyDigits whole.length)
          else .ok (.int (Decimal.applySign negative (Text.natOfDigits whole)), afterWhole)
      | places, power =>
          let places := places.getD []
          let digits := Text.natOfDigits (whole ++ places)
          .ok (.float (Decimal.ofScientific negative digits (power.getD 0 - places.length)),
            exponent.2)

def words : List (List Char × Json) := [
  ("null".toList, .null), ("true".toList, .bool true), ("false".toList, .bool false),
  ("NaN".toList, .float Decimal.notANumber), ("Infinity".toList, .float (Decimal.infinity false)),
  ("-Infinity".toList, .float (Decimal.infinity true))
]

def scanWord? (text : List Char) : Option (Json × List Char) :=
  words.findSome? fun word => (Text.dropPrefix? word.1 text).map fun rest => (word.2, rest)

def scanPlain (text : List Char) : Scan Json :=
  match scanWord? text with
  | some found => .ok found
  | none => scanNumber text

mutual

/-- One value at the start of the text. A bracket takes two of the fuel, and every other step uses
up a character for its one, so fuel above twice the length of the text never runs out. -/
def scanValue (halves : Halves) : (fuel : Nat) → List Char → Except Stop (Json × List Char)
  | 0, text => .error (.fault .value text.length)
  | fuel + 1, text => match text with
    | '"' :: rest => (scanString halves rest).map fun r => (.string r.1, r.2)
    | '[' :: rest => match skipGaps rest with
      | ']' :: rest => .ok (.array [], rest)
      | rest => (scanItems halves fuel rest).map fun r => (.array r.1, r.2)
    | '{' :: rest => match skipGaps rest with
      | '}' :: rest => .ok (.object [], rest)
      | rest => (scanMembers halves fuel rest).map fun r =>
          (.object (r.1.foldl (fun members m => insert m.1 m.2 members) []), r.2)
    | text => scanPlain text

def scanItems (halves : Halves) : (fuel : Nat) → List Char → Except Stop (List Json × List Char)
  | 0, text => .error (.fault .value text.length)
  | fuel + 1, text => do
      let (item, rest) ← scanValue halves fuel text
      match skipGaps rest with
      | ']' :: rest => return ([item], rest)
      | ',' :: rest =>
          let (items, rest) ← scanItems halves fuel (skipGaps rest)
          return (item :: items, rest)
      | rest => .error (.fault .comma rest.length)

def scanMembers (halves : Halves) : (fuel : Nat) → List Char → Except Stop (Members × List Char)
  | 0, text => .error (.fault .key text.length)
  | fuel + 1, text => match text with
    | '"' :: rest => do
        let (key, rest) ← scanString halves rest
        match skipGaps rest with
        | ':' :: rest =>
            let (value, rest) ← scanValue halves fuel (skipGaps rest)
            match skipGaps rest with
            | '}' :: rest => return ([(key, value)], rest)
            | ',' :: rest =>
                let (members, rest) ← scanMembers halves fuel (skipGaps rest)
                return ((key, value) :: members, rest)
            | rest => .error (.fault .comma rest.length)
        | rest => .error (.fault .colon rest.length)
    | text => .error (.fault .key text.length)

end

def scanDocument (halves : Halves) (text : List Char) : Except Stop Json := do
  let (value, rest) ← scanValue halves (2 * text.length + 1) (skipGaps text)
  match skipGaps rest with
  | [] => return value
  | rest => throw (.fault .extraData rest.length)

def Stop.locate (text : List Char) : Stop → ReadError
  | .tooManyDigits count => .tooManyDigits count
  | .fault what left =>
      let index := text.length - left
      let before := text.take index
      let column := (before.reverse.takeWhile (· ≠ '\n')).length + 1
      .malformed what (before.count '\n' + 1) column index

def readDocument (halves : Halves) (text : List Char) : Except ReadError Json :=
  match scanDocument halves text with
  | .ok value => .ok value
  | .error stop => .error (stop.locate text)

def halvesOf (points : List Point) : Halves := fun after =>
  match points.reverse[after]? with
  | some (.half offset) => some offset
  | _ => none

/-- Reads points; a byte order mark does not belong at the start and is refused. -/
def ofPoints (points : List Point) : Except ReadError Json :=
  let text := points.map Point.shown
  if text.head? = some '\ufeff' then .error (Stop.locate text (.fault .byteOrderMark text.length))
  else readDocument (halvesOf points) text

def ofChars (text : List Char) : Except ReadError Json :=
  if text.head? = some '\ufeff' then .error (Stop.locate text (.fault .byteOrderMark text.length))
  else readDocument noHalves text

def ofText (text : String) : Except ReadError Json := ofChars text.toList

end TenantApi.Json
