/-!
# Binary floating-point numbers, exactly

A number of a document that is written with a point or an exponent is a binary64 number. It is
kept here as what it denotes, `± m · 2 ^ q` with `m` below `2 ^ 53`, an infinity, or no number at
all, so that nothing in the library rests on machine arithmetic and every comparison can be
computed by the kernel.

`Binary64.ofDecimal` takes a decimal numeral to the nearest binary64 number. It works in `Nat`
throughout: the numeral is a quotient of two naturals, the quotient is scaled so that its integer
part has 53 bits, and the remainder decides the rounding.
-/

namespace Nomenclator

/-- A binary64 number. In `finite s m q` the value is `m · 2 ^ q`, negated when `s` is set; both
zeros are the two numbers whose `m` is `0`. -/
inductive Binary64 where
  | finite (negative : Bool) (mantissa : Nat) (exponent : Int)
  | infinite (negative : Bool)
  | nan
  deriving DecidableEq, Repr, Inhabited

namespace Binary64

/-- The exponent of the smallest positive number, and of every number below `2 ^ (-1022)`. -/
def minExponent : Int := -1074

/-- The exponent of the largest numbers: `m · 2 ^ 971` with `m` below `2 ^ 53`. -/
def maxExponent : Int := 971

/-- The number with the other sign. -/
def negate : Binary64 → Binary64
  | finite negative mantissa exponent => finite (!negative) mantissa exponent
  | infinite negative => infinite (!negative)
  | nan => nan

/-- The two zeros. Every other number, the absent one included, counts as nonzero. -/
def isZero : Binary64 → Bool
  | finite _ m _ => m == 0
  | _ => false

/-- The whole number that a number is, where it is one. -/
def toInt? : Binary64 → Option Int
  | finite negative m q =>
    let signed (n : Nat) : Int := if negative then -(n : Int) else n
    if 0 ≤ q then some (signed (m * Nat.pow 2 q.toNat))
    else if m % Nat.pow 2 q.natAbs = 0 then some (signed (m / Nat.pow 2 q.natAbs))
    else none
  | _ => none

/-- `num / den` as a quotient of naturals multiplied by `base ^ k`, for any integer `k`. -/
def scale (base num den : Nat) (k : Int) : Nat × Nat :=
  if 0 ≤ k then (num * Nat.pow base k.toNat, den) else (num, den * Nat.pow base (-k).toNat)

/-- The natural number nearest to `num / den`; halfway between two, the even one. -/
def roundDiv (num den : Nat) : Nat :=
  let floor := num / den
  let twice := 2 * (num % den)
  if twice < den then floor
  else if twice = den then floor + floor % 2
  else floor + 1

/-- The largest `e` with `2 ^ e ≤ num / den`, for positive `num` and `den`. -/
def binaryMagnitude (num den : Nat) : Int :=
  let guess : Int := (Nat.log2 num : Int) - Nat.log2 den
  let (n, d) := scale 2 num den (-guess)
  if d ≤ n then guess else guess - 1

/-- The binary64 number nearest to the positive quotient `num / den`. Above the largest finite
number the result is infinite; below the smallest positive one the exponent stays at its minimum,
so the mantissa loses bits and may become `0`. -/
def ofQuotient (negative : Bool) (num den : Nat) : Binary64 :=
  let q := max (binaryMagnitude num den - 52) minExponent
  let (n, d) := scale 2 num den (-q)
  let m := roundDiv n d
  let (m, q) := if m = Nat.pow 2 53 then (Nat.pow 2 52, q + 1) else (m, q)
  if maxExponent < q then infinite negative else finite negative m q

/-- The number of decimal digits of a natural number. -/
def decimalLength (n : Nat) : Nat := (Nat.toDigits 10 n).length

/-- The binary64 number nearest to `digits · 10 ^ power`. A numeral beyond `10 ^ 310` is infinite
and one below `10 ^ (-330)` is zero whatever its digits are; the two bounds keep the naturals small
when the written exponent is huge. -/
def ofDecimal (negative : Bool) (digits : Nat) (power : Int) : Binary64 :=
  if digits = 0 then finite negative 0 minExponent
  else
    let magnitude : Int := decimalLength digits + power
    if 310 < magnitude then infinite negative
    else if magnitude < -330 then finite negative 0 minExponent
    else
      let (n, d) := scale 10 digits 1 power
      ofQuotient negative n d

end Binary64

end Nomenclator
