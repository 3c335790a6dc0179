import TenantApi.Text.Loose
import TenantApi.Text.Printable

/-!
Quoted text for messages. The quote is `'` unless the text has `'` and no `"`. The quote and the
backslash are escaped by a backslash, line and tab characters by a letter, and every other
unprintable character by its code in two, four or eight hexadecimal digits, as is every half of a
surrogate pair.
-/

namespace TenantApi.Text

def quoteMark (text : List Char) : Char :=
  if text.contains '\x27' && !text.contains '"' then '"' else '\x27'

def quotedChar (mark c : Char) : List Char :=
  if c = mark || c = '\\' then ['\\', c]
  else if c = '\n' then ['\\', 'n']
  else if c = '\r' then ['\\', 'r']
  else if c = '\t' then ['\\', 't']
  else if isPrintable c then [c]
  else if c.toNat < 0x100 then '\\' :: 'x' :: hexDigits 2 c.toNat
  else if c.toNat < 0x10000 then '\\' :: 'u' :: hexDigits 4 c.toNat
  else '\\' :: 'U' :: hexDigits 8 c.toNat

def quoted (text : List Char) : List Char :=
  let mark := quoteMark text
  mark :: text.flatMap (quotedChar mark) ++ [mark]

def quotedString (text : String) : String := String.ofList (quoted text.toList)

def quotedPoint (mark : Char) : Point → List Char
  | .char c => quotedChar mark c
  | .half offset => '\\' :: 'u' :: hexDigits 4 (0xd800 + offset.val)

end TenantApi.Text

namespace TenantApi.LooseText

def quoted (text : LooseText) : List Char :=
  let mark := Text.quoteMark text.chars
  mark :: text.points.flatMap (Text.quotedPoint mark) ++ [mark]

end TenantApi.LooseText
