import TenantApi.Decimal.Layout
import TenantApi.Json.Display
import TenantApi.Text.Ascii
import TenantApi.Text.Case

/-!
Message patterns. A directive begins with `%` and ends with the letter of its conversion; between
them may stand a key in parentheses, flags, a width and a precision, each of the last two as a
number or as a star for the next argument. Directives take the arguments in order; when the one
argument is an object, that is the argument until a key puts the member in its place. A pattern
without arguments is the message itself. Patterns and messages may hold halves of surrogate pairs.
-/

namespace TenantApi.Log

inductive PatternFault where
  | tooFewArguments
  | tooManyArguments
  | needsMapping
  | incompleteKey
  | missingKey (key : LooseText)
  | needsNumber (conversion : Char) (given : String)
  | needsInteger (conversion : Char) (given : String)
  | needsReal (given : String)
  | needsChar
  | charOutOfRange
  | notFinite (isNan : Bool)
  /-- An integer beyond all floating-point numbers. -/
  | beyondFloat
  | unsupported (code index : Nat)
  | incomplete
  | needsSize
  | widthTooBig
  | precisionTooBig
  /-- An argument for a width or a precision that is no size at all. -/
  | sizeOutOfRange (kind : String)
  /-- An integer with too many digits. -/
  | overlong
  deriving DecidableEq, Repr

def PatternFault.message : PatternFault → String
  | .tooFewArguments => "not enough arguments for format string"
  | .tooManyArguments => "not all arguments converted during string formatting"
  | .needsMapping => "format requires a mapping"
  | .incompleteKey => "incomplete format key"
  | .missingKey key => String.ofList key.quoted
  | .needsNumber conversion given =>
      "%" ++ conversion.toString ++ " format: a real number is required, not " ++ given
  | .needsInteger conversion given =>
      "%" ++ conversion.toString ++ " format: an integer is required, not " ++ given
  | .needsReal given => "must be real number, not " ++ given
  | .needsChar => "%c requires int or char"
  | .charOutOfRange => "%c arg not in range(0x110000)"
  | .notFinite true => "cannot convert float NaN to integer"
  | .notFinite false => "cannot convert float infinity to integer"
  | .beyondFloat => "int too large to convert to float"
  | .unsupported code index =>
      "unsupported format character '" ++
        (if 31 ≤ code && code < 127 then (Char.ofNat code).toString else "?") ++
        "' (0x" ++ String.ofList (Nat.toDigits 16 code) ++ ") at index " ++ toString index
  | .incomplete => "incomplete format"
  | .needsSize => "* wants int"
  | .widthTooBig => "width too big"
  | .precisionTooBig => "precision too big"
  | .sizeOutOfRange kind => "Python int too large to convert to C " ++ kind
  | .overlong => Decimal.unwritableText

structure Flags where
  left : Bool
  plus : Bool
  space : Bool
  zeros : Bool
  alternate : Bool

structure Directive where
  flags : Flags
  width : Nat
  precision : Option Nat

structure Arguments where
  rest : List Json
  /-- The object that keys refer to. -/
  keyed : Option Members

def Arguments.next (arguments : Arguments) : Except PatternFault (Json × Arguments) :=
  match arguments.rest with
  | [] => .error .tooFewArguments
  | value :: rest => .ok (value, { arguments with rest })

def isFlag (p : Point) : Bool := ['-', '+', ' ', '#', '0'].contains p.shown

def flagsOf (flags : List Point) : Flags :=
  let has (c : Char) : Bool := flags.contains (.char c)
  ⟨has '-', has '+', has ' ', has '0', has '#'⟩

def takeKey : (depth : Nat) → List Point → Option (List Point × List Point)
  | _, [] => none
  | depth, p :: rest =>
      if p = .char ')' then
        match depth with
        | 0 => some ([], rest)
        | depth + 1 => (takeKey depth rest).map fun r => (p :: r.1, r.2)
      else
        (takeKey (if p = .char '(' then depth + 1 else depth) rest).map fun r => (p :: r.1, r.2)

def applyKey (arguments : Arguments) (text : List Point) :
    Except PatternFault (Arguments × List Point) :=
  match text with
  | .char '(' :: rest => match arguments.keyed with
    | none => .error .needsMapping
    | some members => match takeKey 0 rest with
      | none => .error .incompleteKey
      | some (key, rest) => match members.lookup (.ofPoints key) with
        | none => .error (.missingKey (.ofPoints key))
        | some value => .ok ({ arguments with rest := [value] }, rest)
  | _ => .ok (arguments, text)

/-- The limits of a size: the largest one in a pattern is below `2 ^ bits`, and so is every one
given as an argument, up to its sign. -/
structure SizeLimit where
  bits : Nat
  tooBig : PatternFault
  kind : String

def widthLimit : SizeLimit := ⟨63, .widthTooBig, "ssize_t"⟩

def precisionLimit : SizeLimit := ⟨31, .precisionTooBig, "int"⟩

def takeSize (limit : SizeLimit) (arguments : Arguments) (text : List Point) :
    Except PatternFault (Int × Arguments × List Point) :=
  let given (size : Int) (arguments : Arguments) (rest : List Point) :
      Except PatternFault (Int × Arguments × List Point) :=
    if -(Decimal.twoTo limit.bits) ≤ size && size < Decimal.twoTo limit.bits then
      .ok (size, arguments, rest)
    else .error (.sizeOutOfRange limit.kind)
  match text with
  | .char '*' :: rest => match arguments.next with
    | .error fault => .error fault
    | .ok (.int size, arguments) => given size arguments rest
    | .ok (.bool value, arguments) => given (if value then 1 else 0) arguments rest
    | .ok _ => .error .needsSize
  | _ =>
      let isDigit (p : Point) : Bool := Text.isAsciiDigit p.shown
      let size := Text.natOfDigits ((text.takeWhile isDigit).map Point.shown)
      if size < Decimal.twoTo limit.bits then .ok (size, arguments, text.dropWhile isDigit)
      else .error limit.tooBig

def padText (d : Directive) (text : List Point) : List Point :=
  let gap := List.replicate (d.width - text.length) (.char ' ')
  if d.flags.left then text ++ gap else gap ++ text

def padNumber (d : Directive) (negative : Bool) (mark body : List Char) : List Point :=
  let sign := if negative then ['-'] else if d.flags.plus then ['+']
    else if d.flags.space then [' '] else []
  let used := sign.length + mark.length + body.length
  if d.flags.zeros && !d.flags.left then
    (sign ++ mark ++ List.replicate (d.width - used) '0' ++ body).map .char
  else padText d ((sign ++ mark ++ body).map .char)

def integerOf (conversion : Char) : Json → Except PatternFault Int
  | .int value => .ok value
  | .bool value => .ok (if value then 1 else 0)
  | .float value => match Decimal.truncate? value with
    | some whole => .ok whole
    | none => .error (.notFinite (value != value))
  | other => .error (.needsNumber conversion other.typeName)

def exactIntegerOf (conversion : Char) : Json → Except PatternFault Int
  | .int value => .ok value
  | .bool value => .ok (if value then 1 else 0)
  | other => .error (.needsInteger conversion other.typeName)

def realOf : Json → Except PatternFault Float
  | .int value =>
      if Decimal.isFinite (Decimal.ofInt value) then .ok (Decimal.ofInt value)
      else .error .beyondFloat
  | .bool value => .ok (if value then 1 else 0)
  | .float value => .ok value
  | other => .error (.needsReal other.typeName)

def minDigits (d : Directive) (digits : List Char) : List Char :=
  List.replicate (d.precision.getD 0 - digits.length) '0' ++ digits

def withPoint (text : List Char) : List Char :=
  if text.contains '.' then text
  else text.takeWhile (· ≠ 'e') ++ '.' :: text.dropWhile (· ≠ 'e')

def realBody (d : Directive) (conversion : Char) (numerator denominator : Nat) : List Char :=
  let places := d.precision.getD 6
  let body := match conversion.toLower with
    | 'e' => Decimal.exponentForm places numerator denominator
    | 'g' => Decimal.generalForm d.flags.alternate places numerator denominator
    | _ => Decimal.fixedText places numerator denominator
  if d.flags.alternate then withPoint body else body

def convertReal (d : Directive) (conversion : Char) (x : Float) : List Point :=
  let cased (text : List Char) : List Char :=
    if conversion.isUpper then Text.asciiUpper text else text
  match Decimal.Parts.ofFloat x with
  | .nan => padNumber d false [] (cased "nan".toList)
  | .infinite negative => padNumber d negative [] (cased "inf".toList)
  | .finite negative significand exponent =>
      let value := Decimal.fraction significand exponent
      padNumber d negative [] (cased (realBody d conversion value.1 value.2))

def pointOf (code : Int) : Except PatternFault Point :=
  if 0 ≤ code && code < 0x110000 then .ok (.ofCode code.toNat) else .error .charOutOfRange

def cutTo (d : Directive) (text : List Point) : List Point :=
  match d.precision with
  | none => text
  | some count => text.take count

def asciiQuoted (text : List Char) : List Char :=
  text.flatMap fun c => if c.toNat < 128 then [c] else Text.codeEscape c

def convertText (d : Directive) (value : Json) (text : List Point) :
    Except PatternFault (List Point) :=
  if value.isWritable then .ok (padText d (cutTo d text)) else .error .overlong

def convert (d : Directive) (conversion : Point) (index : Nat) (value : Json) :
    Except PatternFault (List Point) :=
  let letter := conversion.shown
  match letter with
  | 's' => convertText d value value.displayPlain.points
  | 'r' => convertText d value (value.displayQuoted.map .char)
  | 'a' => convertText d value ((asciiQuoted value.displayQuoted).map .char)
  | 'd' | 'i' | 'u' => do
      let n ← integerOf letter value
      if Decimal.isWritable n then
        return padNumber d (n < 0) [] (minDigits d (Text.natDigits n.natAbs))
      throw .overlong
  | 'x' | 'X' => do
      let n ← exactIntegerOf letter value
      let digits := minDigits d (Nat.toDigits 16 n.natAbs)
      let mark := if d.flags.alternate then ['0', letter] else []
      return padNumber d (n < 0) mark
        (if letter = 'X' then Text.asciiUpper digits else digits)
  | 'o' => do
      let n ← exactIntegerOf letter value
      let mark := if d.flags.alternate then ['0', 'o'] else []
      return padNumber d (n < 0) mark (minDigits d (Nat.toDigits 8 n.natAbs))
  | 'e' | 'E' | 'f' | 'F' | 'g' | 'G' => do
      let x ← realOf value
      return convertReal d letter x
  | 'c' => match value with
    | .string text => match text.points with
      | [p] => .ok (padText d [p])
      | _ => .error .needsChar
    | .int code => (pointOf code).map fun p => padText d [p]
    | .bool value => (pointOf (if value then 1 else 0)).map fun p => padText d [p]
    | _ => .error .needsChar
  | _ => .error (.unsupported conversion.code index)

/-- The directive after a percent sign, its conversion, the arguments that its stars and its key
leave, and the rest of the pattern. -/
def takeDirective (arguments : Arguments) (text : List Point) :
    Except PatternFault (Directive × Point × Arguments × List Point) := do
  let (arguments, afterKey) ← applyKey arguments text
  let flags := flagsOf (afterKey.takeWhile isFlag)
  let (width, arguments, afterWidth) ←
    takeSize widthLimit arguments (afterKey.dropWhile isFlag)
  let (precision, arguments, afterPrecision) ← match afterWidth with
    | .char '.' :: rest => do
        let (size, arguments, rest) ← takeSize precisionLimit arguments rest
        pure (some size.toNat, arguments, rest)
    | _ => pure (none, arguments, afterWidth)
  let afterLength := match afterPrecision with
    | .char 'l' :: rest | .char 'h' :: rest | .char 'L' :: rest => rest
    | rest => rest
  match afterLength with
  | [] => .error .incomplete
  | conversion :: rest =>
      return (⟨{ flags with left := flags.left || width < 0 }, width.natAbs, precision⟩,
        conversion, arguments, rest)

/-- Each step uses up a character, so fuel above the length of the pattern never runs out. -/
def formatFrom (total : Nat) : (fuel : Nat) → Arguments → List Point →
    Except PatternFault (List Point)
  | 0, _, _ => .ok []
  | _ + 1, arguments, [] =>
      if arguments.rest.isEmpty || arguments.keyed.isSome then .ok []
      else .error .tooManyArguments
  | fuel + 1, arguments, .char '%' :: .char '%' :: rest => do
      return .char '%' :: (← formatFrom total fuel arguments rest)
  | fuel + 1, arguments, .char '%' :: rest => do
      let (d, conversion, arguments, after) ← takeDirective arguments rest
      let (value, arguments) ← arguments.next
      let text ← convert d conversion (total - after.length - 1) value
      return text ++ (← formatFrom total fuel arguments after)
  | fuel + 1, arguments, p :: rest => do
      return p :: (← formatFrom total fuel arguments rest)

/-- The message of a pattern. A single object that is not empty is the argument for keys. -/
def format (pattern : LooseText) (arguments : List Json) : Except PatternFault LooseText :=
  let text := pattern.points
  let keyed : Option Members := match arguments with
    | [.object (member :: members)] => some (member :: members)
    | _ => none
  if arguments.isEmpty then .ok pattern
  else (formatFrom text.length (text.length + 1) ⟨arguments, keyed⟩ text).map LooseText.ofPoints

end TenantApi.Log
