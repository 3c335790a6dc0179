/-!
Cutting text at a separator character. `splitAt` cuts at every separator, so n separators give
n + 1 pieces, empty ones included; `cutFirst` cuts once and tells whether there was a separator.
-/

namespace TenantApi.Text

def splitAt (separator : Char) : List Char → List (List Char)
  | [] => [[]]
  | c :: rest =>
      if c = separator then [] :: splitAt separator rest
      else match splitAt separator rest with
        | [] => [[c]]
        | piece :: pieces => (c :: piece) :: pieces

def cutFirst (separator : Char) : List Char → Option (List Char × List Char)
  | [] => none
  | c :: rest =>
      if c = separator then some ([], rest)
      else (cutFirst separator rest).map fun cut => (c :: cut.1, cut.2)

def cutLast (separator : Char) (text : List Char) : Option (List Char × List Char) :=
  (cutFirst separator text.reverse).map fun cut => (cut.2.reverse, cut.1.reverse)

def join (separator : List Char) : List (List Char) → List Char
  | [] => []
  | [piece] => piece
  | piece :: pieces => piece ++ separator ++ join separator pieces

def dropPrefix? : (start text : List Char) → Option (List Char)
  | [], text => some text
  | _ :: _, [] => none
  | a :: start, b :: text => if a = b then dropPrefix? start text else none

def startsWith (start text : List Char) : Bool := (dropPrefix? start text).isSome

end TenantApi.Text
