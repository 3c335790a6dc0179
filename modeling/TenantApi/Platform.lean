import TenantApi.Bytes.Utf8
import TenantApi.Text.Case
import TenantApi.Text.Loose

/-!
What the library takes from its surroundings: the ASCII form of host names beyond ASCII, the codecs
that are not built in, and the source of fresh ids. Nothing else is known about them than the laws
that stand beside them.
-/

namespace TenantApi

namespace Platform

structure Fault where
  kind : String
  message : String
  deriving DecidableEq, Repr

def isHostChar (c : Char) : Bool :=
  ('a' ≤ c && c ≤ 'z') || Text.isAsciiDigit c || c = '-' || c = '.'

end Platform

class Platform where
  /-- A host name beyond ASCII in ASCII form, if it is a valid name. -/
  encodeHost : List Char → Option (List Char)
  encodeHost_plain {host encoded : List Char} :
    encodeHost host = some encoded → encoded.all Platform.isHostChar = true
  /-- A host name in such a form, as it is shown. -/
  decodeHost : List Char → Except Platform.Fault (List Char)
  /-- The codec of a name, in normal form, that is not built in. -/
  codec : String → Option (Octets → Except Platform.Fault LooseText)
  /-- The value of a parameter that comes with a charset of its own. -/
  decodeParameter : (charset value : List Char) → Except Platform.Fault (List Char)
  freshId : Nat → String
  freshId_injective {a b : Nat} : freshId a = freshId b → a = b
  freshId_ne_empty (n : Nat) : freshId n ≠ ""

end TenantApi
