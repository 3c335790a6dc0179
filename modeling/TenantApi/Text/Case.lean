import TenantApi.Text.Blank

/-!
Letter case where it matters for names: lower-casing, as far as the result can be ASCII, and
title-casing of ASCII header names, where every letter that does not follow a letter starts a word.
-/

namespace TenantApi.Text

def isAsciiLetter (c : Char) : Bool := ('a' ≤ c && c ≤ 'z') || ('A' ≤ c && c ≤ 'Z')

def isAscii (text : List Char) : Bool := text.all fun c => c.toNat < 128

/-- The Kelvin sign is the one character beyond ASCII with an ASCII small letter. -/
def lowerChar (c : Char) : Char := if c = '\u212a' then 'k' else c.toLower

def lower (text : List Char) : List Char := text.map lowerChar

def asciiLower (text : List Char) : List Char := text.map Char.toLower

def asciiUpper (text : List Char) : List Char := text.map Char.toUpper

def titleFrom : (afterLetter : Bool) → List Char → List Char
  | _, [] => []
  | afterLetter, c :: rest =>
      (if afterLetter then c.toLower else c.toUpper) :: titleFrom (isAsciiLetter c) rest

def title (text : List Char) : List Char := titleFrom false text

end TenantApi.Text
