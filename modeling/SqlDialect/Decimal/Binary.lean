import SqlDialect.Decimal.Power
/-!
# Binary floating point

A number of a binary interchange format is a bit pattern. `Format.decode` gives its value as
`± m · 2 ^ q`, and `Format.round` gives the bit pattern nearest to a fraction, ties to an even
last bit. Both work on natural numbers only, so no step of them rounds unseen.
-/

namespace SqlDialect.Decimal

/-- The widths of the two fields after the sign. -/
structure Format where
  /-- Stored bits of the significand. -/
  fractionBits : Nat
  /-- Bits of the exponent. -/
  exponentBits : Nat

def binary32 : Format := ⟨23, 8⟩

def binary64 : Format := ⟨52, 11⟩

/-- What a bit pattern stands for. -/
inductive Datum
  | nan
  | infinite (negative : Bool)
  /-- The number `m · 2 ^ q`, or its negative. -/
  | finite (negative : Bool) (m : Nat) (q : Int)

namespace Format

def signPlace (f : Format) : Nat := twoPow (f.fractionBits + f.exponentBits)

def infinity (f : Format) : Nat := (twoPow f.exponentBits - 1) * twoPow f.fractionBits

/-- The exponent of the last bit of the smallest numbers. -/
def leastExponent (f : Format) : Int :=
  2 - (twoPow (f.exponentBits - 1) : Int) - f.fractionBits

/-- The value of a bit pattern. -/
def decode (f : Format) (bits : Nat) : Datum :=
  let negative := bits / f.signPlace % 2 = 1
  let exponent := bits / twoPow f.fractionBits % twoPow f.exponentBits
  let fraction := bits % twoPow f.fractionBits
  if exponent = twoPow f.exponentBits - 1 then
    if fraction = 0 then .infinite negative else .nan
  else if exponent = 0 then .finite negative fraction f.leastExponent
  else .finite negative (twoPow f.fractionBits + fraction) (f.leastExponent + (exponent - 1))

/-- `num / den` to the nearest integer, a half to the even neighbour. -/
def divideToEven (num den : Nat) : Nat :=
  let whole := num / den
  let twice := 2 * (num % den)
  if twice < den || (twice == den && whole % 2 == 0) then whole else whole + 1

/-- The unsigned bit pattern nearest to `num / den`. -/
def round (f : Format) (num den : Nat) : Nat :=
  if num = 0 then 0
  else
    let guess : Int := (Nat.log2 num : Int) - Nat.log2 den
    let atLeast : Bool := twoPow guess.toNat * den ≤ num * twoPow (-guess).toNat
    let top := if atLeast then guess else guess - 1
    let q := max (top - f.fractionBits) f.leastExponent
    let m := divideToEven (num * twoPow (-q).toNat) (den * twoPow q.toNat)
    min (m + (q - f.leastExponent).toNat * twoPow f.fractionBits) f.infinity

/-- The fraction that an unsigned, finite bit pattern stands for. -/
def fraction (f : Format) (bits : Nat) : Nat × Nat :=
  match f.decode bits with
  | .finite _ m q => (m * twoPow q.toNat, twoPow (-q).toNat)
  | _ => (0, 1)

/-- The product of two unsigned, finite numbers, rounded once. -/
def mul (f : Format) (a b : Nat) : Nat :=
  let (an, ad) := f.fraction a
  let (bn, bd) := f.fraction b
  f.round (an * bn) (ad * bd)

/-- The quotient of two unsigned, finite numbers, rounded once. -/
def div (f : Format) (a b : Nat) : Nat :=
  let (an, ad) := f.fraction a
  let (bn, bd) := f.fraction b
  f.round (an * bd) (ad * bn)

/-- Sign bit and magnitude together. -/
def signed (f : Format) (negative : Bool) (magnitude : Nat) : Nat :=
  if negative then f.signPlace + magnitude else magnitude

/-- The same number, or the nearest one, in another format. -/
def convert (source target : Format) (bits : Nat) : Nat :=
  match source.decode bits with
  | .nan => target.infinity + twoPow (target.fractionBits - 1)
  | .infinite negative => target.signed negative target.infinity
  | .finite negative m q =>
    target.signed negative (target.round (m * twoPow q.toNat) (twoPow (-q).toNat))

end Format

/-- `significand · 10 ^ exponent` as an unsigned 64-bit number: the significand is rounded first
and then multiplied or divided by one rounded power of ten, after steps of `10 ^ 308` where the
exponent lies below `-308`. `none` is an overflow. -/
def scaleByTen (significand : Nat) (exponent : Int) : Option Nat :=
  go 4 (binary64.round significand 1) exponent
where
  /-- At most `fuel` steps; three of them take any 64-bit significand to zero. -/
  go : Nat → Nat → Int → Option Nat
    | 0, _, _ => some 0
    | fuel + 1, value, e =>
      if e.natAbs ≤ 308 then
        let power := binary64.round (tenPow e.natAbs) 1
        if 0 ≤ e then
          let product := binary64.mul value power
          if product = binary64.infinity then none else some product
        else some (binary64.div value power)
      else if value = 0 then some 0
      else if 0 ≤ e then none
      else go fuel (binary64.div value (binary64.round (tenPow 308) 1)) (e + 308)

end SqlDialect.Decimal
