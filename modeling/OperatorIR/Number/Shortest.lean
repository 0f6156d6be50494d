import OperatorIR.Number.Single

/-!
# The shortest decimal of a number

Of the decimals that read back as a given number, the one with the fewest digits stands for it;
of several, the nearest to the number, and the larger where two are equally near. The decimals
that read back are those in an interval around the number that reaches half way to its neighbours;
its ends belong to it when the significand is even.

## Main definitions

* `OperatorIR.Decimal` — a decimal, `digits · 10 ^ exponent`.
* `OperatorIR.Reach` — the interval of the reals that round to a number, in exact arithmetic.
* `OperatorIR.Single.shortest` — the shortest decimal of a finite number.

## Design

On the grid of the multiples of a power of ten only the two neighbours of the number need a test:
if any point of the grid lies in the interval, one of them does. The grids are tried from the
coarsest on; the first with a point in the interval gives the answer, and no later than the one
with nine digits. Fractions are avoided by scaling both sides of a comparison.
-/

set_option autoImplicit false

namespace OperatorIR

/-- The decimal `digits · 10 ^ exponent`. -/
structure Decimal where
  /-- The digits, read as a whole number. -/
  digits : Nat
  /-- The power of ten by which they are scaled. -/
  exponent : Int
  deriving DecidableEq

/-- The reals that round to a number, from `low / unit` to `high / unit` around `value / unit`. -/
structure Reach where
  /-- The lower end, in parts of `1 / unit`. -/
  low : Nat
  /-- The number itself. -/
  value : Nat
  /-- The upper end. -/
  high : Nat
  /-- The common denominator. -/
  unit : Nat
  /-- Do the ends round to the number too? -/
  closed : Bool

/-- `2 ^ e`, or one where `e` is negative. -/
def twoTo (e : Int) : Nat := Nat.pow 2 e.toNat

/-- `10 ^ e`, or one where `e` is negative. -/
def tenTo (e : Int) : Nat := Nat.pow 10 e.toNat

namespace Reach

/-- The interval of a finite number. Its lower half is narrower at a power of two, below which the
numbers lie twice as close, unless these are the subnormal ones. -/
def ofSingle (x : Single) : Reach :=
  let m := x.significand
  let below := if m = Single.leadingBit ∧ 1 < x.biasedExponent then 1 else 2
  let quarter := x.exponent - 2
  let scale := twoTo quarter
  { low := (4 * m - below) * scale
    value := 4 * m * scale
    high := (4 * m + 2) * scale
    unit := twoTo (-quarter)
    closed := decide (m % 2 = 0) }

/-- Does `c · 10 ^ k` lie in the interval? -/
def contains (r : Reach) (c : Nat) (k : Int) : Bool :=
  let point := c * tenTo k * r.unit
  let scale := tenTo (-k)
  if r.closed then decide (r.low * scale ≤ point) && decide (point ≤ r.high * scale)
  else decide (r.low * scale < point) && decide (point < r.high * scale)

/-- The greatest `c` with `c · 10 ^ k` not above the number. -/
def floor (r : Reach) (k : Int) : Nat :=
  r.value * tenTo (-k) / (r.unit * tenTo k)

/-- The `c` for which `c · 10 ^ k` is nearest to the number, the larger of two. -/
def nearest (r : Reach) (k : Int) : Nat :=
  let c := r.floor k
  if 2 * r.value * tenTo (-k) < (2 * c + 1) * tenTo k * r.unit then c else c + 1

/-- The point of the grid of step `10 ^ k` that lies in the interval, if there is one; of two
neighbours of the number, the nearer. -/
def point? (r : Reach) (k : Int) : Option Nat :=
  let c := r.floor k
  match r.contains c k, r.contains (c + 1) k with
  | true, true => some (r.nearest k)
  | true, false => some c
  | false, true => some (c + 1)
  | false, false => none

/-- The least power of ten above a number, which must be at least `10 ^ (-45)`. -/
def magnitude (r : Reach) : Int :=
  ((Nat.toDigits 10 (r.value * tenTo 45 / r.unit)).length : Int) - 45

end Reach

/-- The shortest decimal that reads back as the number, which must be finite and not zero. -/
def Single.shortest (x : Single) : Decimal :=
  let r := Reach.ofSingle x
  let top := r.magnitude
  let found := (List.range 9).findSome? fun (n : Nat) =>
    (r.point? (top - n)).map fun c => Decimal.mk c (top - n)
  found.getD ⟨r.nearest (top - 9), top - 9⟩

end OperatorIR
