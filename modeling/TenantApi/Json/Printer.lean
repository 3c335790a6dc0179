import TenantApi.Decimal.Layout
import TenantApi.Json.Basic

/-!
Writing structured text. A `Style` fixes the blanks after commas and colons and what is escaped. In
the ASCII styles that is every character outside printable ASCII, one beyond U+FFFF as two halves of
a surrogate pair, and every half that stands alone, so the text is one line of printable ASCII
whatever the value. Otherwise only control characters are escaped. Integers are written in full
here; `isWritable` says whether they have a text at all.
-/

namespace TenantApi.Json

structure Style where
  comma : List Char
  colon : List Char
  asciiOnly : Bool

def spaced : Style := ⟨[',', ' '], [':', ' '], true⟩

def compact : Style := ⟨[','], [':'], true⟩

def compactWide : Style := ⟨[','], [':'], false⟩

def unicodeEscape (code : Nat) : List Char := '\\' :: 'u' :: Text.hexDigits 4 code

def escapeChar (asciiOnly : Bool) (c : Char) : List Char :=
  if c = '"' then ['\\', '"']
  else if c = '\\' then ['\\', '\\']
  else if c = '\n' then ['\\', 'n']
  else if c = '\r' then ['\\', 'r']
  else if c = '\t' then ['\\', 't']
  else if c = '\x0c' then ['\\', 'f']
  else if c = '\x08' then ['\\', 'b']
  else if 0x20 ≤ c.toNat && (c.toNat ≤ 0x7e || !asciiOnly) then [c]
  else if c.toNat < 0x10000 then unicodeEscape c.toNat
  else
    let offset := c.toNat - 0x10000
    unicodeEscape (0xd800 + offset / 0x400) ++ unicodeEscape (0xdc00 + offset % 0x400)

def escapePoint (asciiOnly : Bool) : Point → List Point
  | .char c => (escapeChar asciiOnly c).map .char
  | .half offset =>
      if asciiOnly then (unicodeEscape (0xd800 + offset.val)).map .char else [.half offset]

def stringPoints (style : Style) (text : LooseText) : List Point :=
  .char '"' :: text.points.flatMap (escapePoint style.asciiOnly) ++ [.char '"']

mutual

/-- The text of a value; halves of surrogate pairs are left in it where they are not escaped. -/
def points (style : Style) : Json → List Point
  | .null => "null".toList.map .char
  | .bool true => "true".toList.map .char
  | .bool false => "false".toList.map .char
  | .int value => (Text.intDigits value).map .char
  | .float value => (Decimal.render Decimal.structuredLayout value).map .char
  | .string value => stringPoints style value
  | .array items => .char '[' :: itemPoints style items ++ [.char ']']
  | .object members => .char '{' :: memberPoints style members ++ [.char '}']

def itemPoints (style : Style) : List Json → List Point
  | [] => []
  | [item] => points style item
  | item :: next :: rest =>
      points style item ++ style.comma.map .char ++ itemPoints style (next :: rest)

def memberPoints (style : Style) : List (LooseText × Json) → List Point
  | [] => []
  | [(key, value)] => stringPoints style key ++ style.colon.map .char ++ points style value
  | (key, value) :: next :: rest =>
      stringPoints style key ++ style.colon.map .char ++ points style value ++
        style.comma.map .char ++ memberPoints style (next :: rest)

end

def render (style : Style) (value : Json) : List Char := (points style value).map Point.shown

def toText (style : Style) (value : Json) : String := String.ofList (render style value)

end TenantApi.Json
