import TenantApi.Text.Digit

/-!
Text in which halves of surrogate pairs may stand alone, as escapes and wide encodings can leave
them. A half is no character, so a text with one is no string: it is a list of points. Text without
halves is the string that it is.
-/

namespace TenantApi

/-- A character, or the half of a surrogate pair with the code that much above U+D800. -/
inductive Point where
  | char (c : Char)
  | half (offset : Fin 2048)
  deriving DecidableEq, Repr

namespace Point

def isHalf : Point → Bool
  | .char _ => false
  | .half _ => true

def shown : Point → Char
  | .char c => c
  | .half _ => '\ufffd'

def code : Point → Nat
  | .char c => c.toNat
  | .half offset => 0xd800 + offset.val

def ofCode (code : Nat) : Point :=
  if within : 0xd800 ≤ code ∧ code < 0xe000 then .half ⟨code - 0xd800, by omega⟩
  else .char (Char.ofNat code)

end Point

structure Ragged where
  points : List Point
  hasHalf : points.any Point.isHalf = true
  deriving DecidableEq, Repr

inductive LooseText where
  | plain (text : String)
  | ragged (text : Ragged)
  deriving DecidableEq, Repr

instance : Coe String LooseText := ⟨.plain⟩

instance : Inhabited LooseText := ⟨.plain ""⟩

namespace LooseText

def points : LooseText → List Point
  | .plain text => text.toList.map .char
  | .ragged text => text.points

def ofPoints (points : List Point) : LooseText :=
  if half : points.any Point.isHalf = true then .ragged ⟨points, half⟩
  else .plain (String.ofList (points.map Point.shown))

def isRagged : LooseText → Bool
  | .plain _ => false
  | .ragged _ => true

def chars (text : LooseText) : List Char := text.points.map Point.shown

instance : Append LooseText := ⟨fun a b => ofPoints (a.points ++ b.points)⟩

end LooseText

/-- The first run of halves in a text that is to be encoded: the index of its first half, that
half, and the length of the run. -/
structure LoneHalves where
  index : Nat
  first : Fin 2048
  length : Nat
  deriving DecidableEq, Repr

namespace LoneHalves

def message (halves : LoneHalves) : String :=
  let place :=
    if halves.length = 1 then
      "character '\\u" ++ String.ofList (Text.hexDigits 4 (0xd800 + halves.first.val)) ++
        "' in position " ++ toString halves.index
    else
      "characters in position " ++ toString halves.index ++ "-" ++
        toString (halves.index + halves.length - 1)
  "'utf-8' codec can't encode " ++ place ++ ": surrogates not allowed"

def find? (points : List Point) : Option LoneHalves :=
  match points.dropWhile (!·.isHalf) with
  | .half first :: rest =>
      some ⟨(points.takeWhile (!·.isHalf)).length, first, 1 + (rest.takeWhile Point.isHalf).length⟩
  | _ => none

end LoneHalves

end TenantApi
