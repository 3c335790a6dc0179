/-!
Blank characters. `isSpace` is the White_Space property; `isBlank` adds the four information
separators U+001C to U+001F, which also separate words. Both tables are those of Unicode 14.0.
Trimming keeps every character between the first and the last one that is not trimmed.
-/

namespace TenantApi.Text

def inRanges (ranges : List (Nat × Nat)) (code : Nat) : Bool :=
  ranges.any fun range => range.1 ≤ code && code ≤ range.2

def spaceRanges : List (Nat × Nat) := [
  (0x9, 0xd), (0x20, 0x20), (0x85, 0x85), (0xa0, 0xa0), (0x1680, 0x1680), (0x2000, 0x200a),
  (0x2028, 0x2029), (0x202f, 0x202f), (0x205f, 0x205f), (0x3000, 0x3000)
]

def isSpace (c : Char) : Bool := inRanges spaceRanges c.toNat

def isBlank (c : Char) : Bool := isSpace c || (0x1c ≤ c.toNat && c.toNat ≤ 0x1f)

def trimStart (drop : Char → Bool) (text : List Char) : List Char := text.dropWhile drop

def trimEnd (drop : Char → Bool) (text : List Char) : List Char :=
  (text.reverse.dropWhile drop).reverse

def trim (drop : Char → Bool) (text : List Char) : List Char :=
  trimEnd drop (trimStart drop text)

def isBlankText (text : List Char) : Bool := text.all isBlank

end TenantApi.Text
