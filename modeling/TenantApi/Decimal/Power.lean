/-!
Powers of the two radixes that numbers are written in.
-/

namespace TenantApi.Decimal

def twoTo (n : Nat) : Nat := Nat.pow 2 n

def tenTo (n : Nat) : Nat := Nat.pow 10 n

end TenantApi.Decimal
