import SqlDialect.Decimal.Binary
/-!
# Shortest decimal text of a floating point number

`shortest` gives the fewest digits that read back as the same number, and of those with the fewest
digits the nearest to it; a `Tie` decides between two that are equally near. A `Layout` then says
how the digits are laid out: up to which exponents in positional notation, whether an integral value
keeps `.0`, and what stands for the values that are no numbers. The formats that the library writes
are `Layout.plain` and `Layout.json`.
-/

namespace SqlDialect.Decimal

/-- The number `digits · 10 ^ exponent`. -/
structure Digits where
  digits : Nat
  exponent : Int
  deriving DecidableEq

/-- The same number without zeros at the end of the digits. -/
def Digits.strip : Nat → Digits → Digits
  | 0, d => d
  | fuel + 1, d =>
    if d.digits ≠ 0 ∧ d.digits % 10 = 0 then strip fuel ⟨d.digits / 10, d.exponent + 1⟩ else d

/-- How many decimal digits a natural number has. -/
def digitCount (n : Nat) : Nat := (Nat.toDigits 10 n).length

/-- The least `k` with `num / den < 10 ^ k`, for a positive fraction. -/
def magnitude (num den : Nat) : Int :=
  if den ≤ num then digitCount (num / den)
  else
    -- `den / num` rounded up, less one, has one digit more than there are zeros after the point
    1 - (digitCount ((den + num - 1) / num - 1) : Int)

/-- Which of two neighbours is taken when both are equally near. -/
inductive Tie
  | up
  | even
  deriving DecidableEq, Repr

/-- Whether the lower of two neighbours, `below`, wins a tie. -/
def Tie.takesLower (tie : Tie) (below : Nat) : Bool :=
  match tie with
  | up => false
  | even => below % 2 == 0

/-- The digits with the given exponent that lie in the interval, nearest to `num / den`.
The interval goes from `low / den` to `high / den` and holds its ends if `closed`. -/
def onGrid? (tie : Tie) (num low high den : Nat) (closed : Bool) (exponent : Int) :
    Option Digits :=
  let unit := tenPow exponent.toNat * den
  let scale := tenPow (-exponent).toNat
  let below := num * scale / unit
  let inside (c : Nat) : Bool :=
    if closed then low * scale ≤ c * unit && c * unit ≤ high * scale
    else low * scale < c * unit && c * unit < high * scale
  let middle := (2 * below + 1) * unit
  let nearerBelow : Bool :=
    2 * (num * scale) < middle || (2 * (num * scale) == middle && tie.takesLower below)
  match inside below, inside (below + 1) with
  | true, true => some ⟨if nearerBelow then below else below + 1, exponent⟩
  | true, false => some ⟨below, exponent⟩
  | false, true => some ⟨below + 1, exponent⟩
  | false, false => none

/-- The shortest digits of the number `m · 2 ^ q` of a format. -/
def shortest (f : Format) (tie : Tie) (m : Nat) (q : Int) : Digits :=
  if m = 0 then ⟨0, 0⟩
  else
    let up := twoPow (q - 2).toNat
    let den := twoPow (2 - q).toNat
    let num := 4 * m * up
    let gap := if m = twoPow f.fractionBits ∧ f.leastExponent < q then 1 else 2
    let low := (4 * m - gap) * up
    let high := (4 * m + 2) * up
    let top := magnitude num den
    match (List.range 17).findSome? fun (n : Nat) =>
        onGrid? tie num low high den (m % 2 == 0) (top - (n + 1 : Nat)) with
    | some d => d.strip 20
    | none => ⟨num * tenPow (17 - top).toNat / (den * tenPow (top - 17).toNat), top - 17⟩

/-! ### Layouts -/

/-- How a floating point number is written. -/
structure Layout where
  /-- Which of two equally near texts is written. -/
  tie : Tie
  /-- Whether digits whose first stands at `10 ^ e` are written without an exponent. -/
  positional : Int → Bool
  /-- An integral value ends in `.0`. -/
  pointZero : Bool
  nan : String
  infinity : String
  negativeInfinity : String

/-- Never an exponent, and no point in an integral value; a tie goes up. -/
def Layout.plain : Layout := ⟨.up, fun _ => true, false, "NaN", "inf", "-inf"⟩

/-- Positional from `0.00001` up to below `10 ^ 16`, else with a signed exponent; at least one place
after the point; `null` for a value that is no number; a tie goes to the even digit. -/
def Layout.json : Layout := ⟨.even, fun e => -5 ≤ e && e < 16, true, "null", "null", "null"⟩

def natDigits (n : Nat) : List Char := Nat.toDigits 10 n

/-- An integer with a sign even if it is positive. -/
def signedInt (n : Int) : List Char :=
  (if n < 0 then '-' else '+') :: natDigits n.natAbs

/-- The unsigned text of digits. -/
def Layout.magnitude (l : Layout) (d : Digits) : List Char :=
  let ds := natDigits d.digits
  let top : Int := (ds.length : Int) - 1 + d.exponent
  if d.digits = 0 then '0' :: (if l.pointZero then ".0".toList else [])
  else if l.positional top then
    if 0 ≤ d.exponent then
      ds ++ List.replicate d.exponent.toNat '0' ++ (if l.pointZero then ".0".toList else [])
    else if 0 ≤ top then
      ds.take (top + 1).toNat ++ '.' :: ds.drop (top + 1).toNat
    else '0' :: '.' :: List.replicate (-top - 1).toNat '0' ++ ds
  else
    match ds with
    | [] => []
    | [c] => c :: 'e' :: signedInt top
    | c :: rest => c :: '.' :: rest ++ 'e' :: signedInt top

def Layout.write (l : Layout) (f : Format) (bits : Nat) : String :=
  match f.decode bits with
  | .nan => l.nan
  | .infinite negative => if negative then l.negativeInfinity else l.infinity
  | .finite negative m q =>
    let text := l.magnitude (shortest f l.tie m q)
    String.ofList (if negative then '-' :: text else text)

end SqlDialect.Decimal
