import TenantApi.Text.Digit
import TenantApi.Text.Split

/-!
Address literals. Version 4 is four decimal numbers up to 255 between points, without zeros in
front. Version 6 is groups of hexadecimal digits between colons, of which the last two may be a
version 4 address; `::` stands for at least one group of zeros, and a zone may follow after `%`.
-/

namespace TenantApi.IpAddress

def isOctet (text : List Char) : Bool :=
  !text.isEmpty && text.length ≤ 3 && text.all Text.isAsciiDigit &&
    (text = ['0'] || text.head? ≠ some '0') && Text.natOfDigits text ≤ 255

def isVersion4 (text : List Char) : Bool :=
  let octets := Text.splitAt '.' text
  octets.length = 4 && octets.all isOctet

def isGroup (text : List Char) : Bool :=
  !text.isEmpty && text.length ≤ 4 && text.all fun c => (Text.hexValue? c).isSome

def expandTail (parts : List (List Char)) : Option (List (List Char)) :=
  match parts.getLast? with
  | some last =>
      if last.contains '.' then
        if isVersion4 last then some (parts.dropLast ++ [['0'], ['0']]) else none
      else some parts
  | none => none

def innerGaps (parts : List (List Char)) : List Nat :=
  ((List.range parts.length).zip parts).filterMap fun part =>
    if part.2.isEmpty && part.1 ≠ 0 && part.1 + 1 ≠ parts.length then some part.1 else none

def dropEmptyFirst : List (List Char) → Option (List (List Char))
  | [] => some []
  | first :: rest =>
      if first.isEmpty then (if rest.isEmpty then some [] else none) else some (first :: rest)

/-- Eight groups, or groups on both sides of one gap that stands for at least one. -/
def areGroups (parts : List (List Char)) : Bool :=
  match innerGaps parts with
  | [] => parts.length = 8 && parts.all isGroup
  | [gap] =>
      match dropEmptyFirst (parts.take gap), dropEmptyFirst (parts.drop (gap + 1)).reverse with
      | some before, some after =>
          before.length + after.length < 8 && before.all isGroup && after.all isGroup
      | _, _ => false
  | _ => false

def isVersion6Address (text : List Char) : Bool :=
  let parts := Text.splitAt ':' text
  3 ≤ parts.length && (match expandTail parts with
    | some parts => parts.length ≤ 9 && areGroups parts
    | none => false)

def isVersion6 (text : List Char) : Bool :=
  !text.contains '/' && (match Text.cutFirst '%' text with
    | none => isVersion6Address text
    | some (address, zone) => !zone.isEmpty && !zone.contains '%' && isVersion6Address address)

def isLiteral (text : List Char) : Bool := isVersion4 text || isVersion6 text

end TenantApi.IpAddress
