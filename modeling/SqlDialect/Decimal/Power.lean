/-!
# Powers of two and ten

The units that binary and decimal notation count in.
-/

namespace SqlDialect.Decimal

def twoPow (n : Nat) : Nat := Nat.pow 2 n

def tenPow (n : Nat) : Nat := Nat.pow 10 n

end SqlDialect.Decimal
