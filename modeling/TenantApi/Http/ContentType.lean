import TenantApi.Decimal.Integer
import TenantApi.Text.Case
import TenantApi.Text.Split

/-!
Parameters of content types. A name with a star after it has a value in a charset of its own, and a
number after the star makes the value one of several segments; such parameters come after the
others. They are refused when only some of the segments of one value have numbers.
-/

namespace TenantApi.ContentType

inductive Fault where
  /-- Segments with and without numbers; whether those without come first. -/
  | mixedSegments (unnumberedFirst : Bool)
  | tooManyDigits (count : Nat)
  deriving DecidableEq, Repr

inductive Value where
  | plain (text : List Char)
  | extended (charset text : List Char)
  deriving DecidableEq, Repr

/-- The pieces between semicolons that do not stand between quotes. A quote after a backslash does
not count. -/
def pieces : (isQuoted : Bool) → (before : Char) → List Char → List (List Char)
  | _, _, [] => [[]]
  | isQuoted, before, c :: rest =>
      if c = ';' && !isQuoted then [] :: pieces false c rest
      else
        let isQuoted := if c = '"' && before ≠ '\\' then !isQuoted else isQuoted
        match pieces isQuoted c rest with
        | [] => [[c]]
        | piece :: pieces => (c :: piece) :: pieces

def cutPiece (piece : List Char) : List Char × List Char :=
  match Text.cutFirst '=' piece with
  | some (name, value) =>
      (Text.lower (Text.trim Text.isBlank name), Text.trim Text.isBlank value)
  | none => (Text.trim Text.isBlank piece, [])

def replacePairs (first second becomes : Char) : List Char → List Char
  | a :: b :: rest =>
      if a = first ∧ b = second then becomes :: replacePairs first second becomes rest
      else a :: replacePairs first second becomes (b :: rest)
  | rest => rest

def unquoted (value : List Char) : List Char :=
  let isWrapped (first last : Char) : Bool :=
    2 ≤ value.length && value.head? = some first && value.getLast? = some last
  let inside := (value.drop 1).dropLast
  if isWrapped '"' '"' then
    replacePairs '\\' '"' '"' (replacePairs '\\' '\\' '\\' inside)
  else if isWrapped '<' '>' then inside else value

structure Segment where
  number : Option Nat
  text : List Char
  isEscaped : Bool
  deriving DecidableEq, Repr

def isWordChar (c : Char) : Bool := Text.isAsciiLetter c || Text.isAsciiDigit c || c = '_'

def starred? (name : List Char) : Option (List Char × List Char) :=
  match Text.cutFirst '*' name with
  | none => none
  | some (stem, rest) =>
      let digits := if rest.getLast? = some '*' then rest.dropLast else rest
      if stem.isEmpty || !stem.all isWordChar || !digits.all Text.isAsciiDigit ||
        (digits.isEmpty && !rest.isEmpty) then none
      else some (stem, digits)

/-- The parameters without a star, and the segments of those with one by name, in order. -/
structure Gathered where
  plain : List (List Char × Value)
  segments : List (List Char × List Segment)

def addSegment (name : List Char) (segment : Segment) :
    List (List Char × List Segment) → List (List Char × List Segment)
  | [] => [(name, [segment])]
  | entry :: rest =>
      if entry.1 = name then (name, entry.2 ++ [segment]) :: rest
      else entry :: addSegment name segment rest

def gather : Gathered → List (List Char × List Char) → Except Fault Gathered
  | gathered, [] => .ok gathered
  | gathered, (name, value) :: rest => match starred? name with
    | none => gather { gathered with
        plain := gathered.plain ++ [(name, .plain (unquoted value))] } rest
    | some (stem, digits) =>
        if Decimal.digitLimit < digits.length then .error (.tooManyDigits digits.length)
        else
          let number := if digits.isEmpty then none else some (Text.natOfDigits digits)
          let segment : Segment := ⟨number, unquoted value, name.getLast? = some '*'⟩
          gather { gathered with segments := addSegment stem segment gathered.segments } rest

def isAfter : List Char → List Char → Bool
  | [], _ => false
  | _ :: _, [] => true
  | a :: as, b :: bs => b < a || (a = b && isAfter as bs)

/-- By number, then by text, then those without escapes first. -/
def comesFirst (a b : Segment) : Bool :=
  let x := a.number.getD 0
  let y := b.number.getD 0
  x < y || (x = y && (isAfter b.text a.text || (a.text = b.text && (!a.isEscaped || b.isEscaped))))

def unescape : List Char → List Char
  | '%' :: a :: b :: rest => match Text.hexValue? a, Text.hexValue? b with
    | some high, some low => Char.ofNat (high * 16 + low) :: unescape rest
    | _, _ => '%' :: unescape (a :: b :: rest)
  | c :: rest => c :: unescape rest
  | [] => []

def withBackslashes (text : List Char) : List Char :=
  text.flatMap fun c => if c = '\\' || c = '"' then ['\\', c] else [c]

/-- The value of segments: an escaped one begins with its charset and language, if it has both. The
charset is named as it stands between quotes. -/
def joinSegments (segments : List Segment) : Except Fault Value :=
  let isNumbered (segment : Segment) : Bool := segment.number.isSome
  if segments.any isNumbered && !segments.all isNumbered then
    .error (.mixedSegments !(segments.head?.any isNumbered))
  else
    let text := (segments.mergeSort comesFirst).flatMap fun segment =>
      if segment.isEscaped then unescape segment.text else segment.text
    if segments.any Segment.isEscaped then
      match Text.cutFirst '\x27' text with
      | none => .ok (.extended [] text)
      | some (charset, rest) => match Text.cutFirst '\x27' rest with
        | none => .ok (.extended [] text)
        | some (_, text) => .ok (.extended (withBackslashes charset) text)
    else .ok (.plain text)

def joinAll : List (List Char × List Segment) → Except Fault (List (List Char × Value))
  | [] => .ok []
  | (name, segments) :: rest => do
      let value ← joinSegments segments
      return (name, value) :: (← joinAll rest)

/-- The parameters of a content type; the type itself stands first, as one without a value. -/
def parameters (contentType : String) : Except Fault (List (List Char × Value)) :=
  match (pieces false ' ' contentType.toList).map cutPiece with
  | [] => .ok []
  | (name, value) :: rest => do
      let gathered ← gather ⟨[(name, .plain (unquoted value))], []⟩ rest
      return gathered.plain ++ (← joinAll gathered.segments)

def parameter? (contentType name : String) : Except Fault (Option Value) :=
  (parameters contentType).map fun found =>
    (found.find? fun entry => Text.asciiLower entry.1 = name.toList).map Prod.snd

end TenantApi.ContentType
