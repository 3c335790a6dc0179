import TenantApi.Text.Digit

/-!
Text that must be ASCII. Encoding refuses the first run of other characters and says where it is
and what stands there.
-/

namespace TenantApi.Text

/-- The first run of characters outside ASCII: the index of its first character, that character,
and the length of the run. -/
structure NotAscii where
  index : Nat
  char : Char
  length : Nat
  deriving DecidableEq, Repr

def codeEscape (c : Char) : List Char :=
  if c.toNat < 0x100 then '\\' :: 'x' :: hexDigits 2 c.toNat
  else if c.toNat < 0x10000 then '\\' :: 'u' :: hexDigits 4 c.toNat
  else '\\' :: 'U' :: hexDigits 8 c.toNat

def NotAscii.message (error : NotAscii) : String :=
  let place :=
    if error.length = 1 then
      "character '" ++ String.ofList (codeEscape error.char) ++ "' in position " ++
        toString error.index
    else
      "characters in position " ++ toString error.index ++ "-" ++
        toString (error.index + error.length - 1)
  "'ascii' codec can't encode " ++ place ++ ": ordinal not in range(128)"

def isAsciiChar (c : Char) : Bool := c.toNat < 128

def notAscii? (text : List Char) : Option NotAscii :=
  let ahead := text.takeWhile isAsciiChar
  match text.dropWhile isAsciiChar with
  | [] => none
  | c :: rest => some ⟨ahead.length, c, 1 + (rest.takeWhile (!isAsciiChar ·)).length⟩

def requireAscii (text : String) : Except NotAscii Unit :=
  match notAscii? text.toList with
  | none => .ok ()
  | some error => .error error

end TenantApi.Text
