import Nomenclator.Number.Binary64

/-!
# The shortest decimal that reads back

A binary64 number is written with the fewest decimal digits that are still nearer to it than to any
other binary64 number, and among the numerals of that length with the one nearest to the number.

The numerals that read back as `m · 2 ^ q` fill an interval: half a unit below and above, the ends
included when `m` is even. On the grid of the numerals with a given digit count only the two
neighbours of the number can be the nearest one inside the interval, so `shortest?` tries the grids
from one digit to seventeen and tests two points on each, in exact arithmetic.

`Binary64.display` then places the point: positional from `10 ^ (-4)` up to `10 ^ 16`, always with a
digit on either side of the point, and with a signed exponent of at least two digits elsewhere.
-/

namespace Nomenclator

namespace Binary64

/-- A positive decimal `digits · 10 ^ power`. -/
structure Decimal where
  digits : Nat
  power : Int
  deriving DecidableEq, Repr

/-- The decimals that round to `m · 2 ^ q`, as multiples of a quarter unit `2 ^ (q - 2)`: from
`4 m - 2` to `4 m + 2`, except that below a power of two the neighbour is half as far. -/
structure Basin where
  low : Nat
  high : Nat
  closed : Bool

/-- The basin of `m · 2 ^ q`. -/
def basin (m : Nat) (q : Int) : Basin :=
  { low := if m = Nat.pow 2 52 ∧ minExponent < q then 4 * m - 1 else 4 * m - 2
    high := 4 * m + 2
    closed := m % 2 = 0 }

/-- Order of the quotients `a / b` and `c / d`. -/
def quotientLt (a b c d : Nat) : Bool := a * d < c * b

/-- Whether the decimal `k · 10 ^ p` lies in a basin given in units of `2 ^ u`. -/
def Basin.holds (b : Basin) (u : Int) (k : Nat) (p : Int) : Bool :=
  let (kn, kd) := scale 10 k 1 p
  let (ln, ld) := scale 2 b.low 1 u
  let (hn, hd) := scale 2 b.high 1 u
  if b.closed then !quotientLt kn kd ln ld && !quotientLt hn hd kn kd
  else quotientLt ln ld kn kd && quotientLt kn kd hn hd

/-- The largest `e` with `10 ^ e ≤ num / den`, found by trying `e` downwards from an upper bound. -/
def decimalMagnitude (num den : Nat) : Nat → Int → Int
  | 0, e => e
  | fuel + 1, e =>
    let (n, d) := scale 10 1 1 e
    if quotientLt num den n d then decimalMagnitude num den fuel (e - 1) else e

/-- The nearest point to `m · 2 ^ q` on the grid `10 ^ p` that lies in the basin, if one does. Of
two points equally far the even one is taken. -/
def gridPoint? (m : Nat) (q p : Int) : Option Nat :=
  let (vn, vd) := scale 2 m 1 q
  let (n, d) := scale 10 vn vd (-p)
  let below := n / d
  let above := below + 1
  let b := basin m q
  let inside (k : Nat) : Bool := b.holds (q - 2) k p
  match inside below, inside above with
  | false, false => none
  | true, false => some below
  | false, true => some above
  | true, true =>
    let twice := 2 * (n % d)
    if twice < d then some below
    else if d < twice then some above
    else some (if below % 2 = 0 then below else above)

/-- The first grid point found on the grids of `count`, `count + 1`, … digits. -/
def searchGrids (m : Nat) (q : Int) (magnitude : Int) : Nat → Nat → Option Decimal
  | 0, _ => none
  | fuel + 1, count =>
    let p := magnitude - (count : Int) + 1
    match gridPoint? m q p with
    | some k => some ⟨k, p⟩
    | none => searchGrids m q magnitude fuel (count + 1)

/-- The shortest decimal that reads back as `m · 2 ^ q`, for positive `m`. -/
def shortest? (m : Nat) (q : Int) : Option Decimal :=
  let (n, d) := scale 2 m 1 q
  let upper : Int := (decimalLength n : Int) - decimalLength d + 1
  searchGrids m q (decimalMagnitude n d 4 upper) 17 1

/-- Zeros at the end of the digits move into the power. -/
def Decimal.trim : Nat → Decimal → Decimal
  | 0, x => x
  | fuel + 1, x => if x.digits % 10 = 0 then trim fuel ⟨x.digits / 10, x.power + 1⟩ else x

/-- The digits of an exponent, at least two. -/
def exponentDigits (n : Nat) : List Char :=
  let ds := Nat.toDigits 10 n
  if ds.length < 2 then '0' :: ds else ds

/-- A positive decimal as text. With `point` digits before the point, the positional form is used
while `-4 < point ≤ 16`. -/
def Decimal.display (x : Decimal) : List Char :=
  let ds := Nat.toDigits 10 x.digits
  let point : Int := ds.length + x.power
  if -4 < point ∧ point ≤ 16 then
    if point ≤ 0 then ['0', '.'] ++ List.replicate (-point).toNat '0' ++ ds
    else if ds.length ≤ point.toNat then
      ds ++ List.replicate (point.toNat - ds.length) '0' ++ ['.', '0']
    else ds.take point.toNat ++ ['.'] ++ ds.drop point.toNat
  else
    let e := point - 1
    let mantissa := match ds with
      | [] => []
      | [d] => [d]
      | d :: rest => d :: '.' :: rest
    let sign := if e < 0 then '-' else '+'
    mantissa ++ ['e', sign] ++ exponentDigits e.natAbs

/-- The text of a binary64 number: its shortest decimal, `inf` or `nan`, with a sign when it is
negative, the negative zero included. -/
def display : Binary64 → String
  | nan => "nan"
  | infinite negative => if negative then "-inf" else "inf"
  | finite negative m q =>
    let body :=
      if m = 0 then ['0', '.', '0']
      else match shortest? m q with
        | some x => (x.trim 17).display
        | none => []
    String.ofList (if negative then '-' :: body else body)

end Binary64

end Nomenclator
