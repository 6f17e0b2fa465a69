import EventLedger.Decimal.Binary64

/-!
# The fewest digits that read back

Of all decimals that round to a given number, `shortest` finds the one with the fewest digits, of
those the nearest, and in a tie the one with the even last digit. The search is exact: for one
digit, two digits and so on it tests the two neighbours of the number on that decimal grid.

* `RoundingInterval`: the reals that round to a number;
* `shortest`: the digits and the power of ten.
-/

namespace EventLedger.Decimal

/-- The reals that round to `coefficient · 2 ^ exponent`, as bounds in units of
`2 ^ (exponent - 2)`; both ends belong to it where the coefficient is even. -/
structure RoundingInterval where
  low : Nat
  high : Nat
  closed : Bool
  deriving DecidableEq, Repr

/-- The interval of a number; below a power of two the next number is only half as far away. -/
def Binary64.interval (x : Binary64) : RoundingInterval where
  low :=
    if x.coefficient = Nat.pow 2 52 ∧ Binary64.leastExponent < x.exponent then 4 * x.coefficient - 1
    else 4 * x.coefficient - 2
  high := 4 * x.coefficient + 2
  closed := x.coefficient % 2 == 0

/-- The decimal `digits · 10 ^ power`, in units of `2 ^ unit`, as a quotient. -/
def decimalInUnits (digits : Nat) (power unit : Int) : Nat × Nat :=
  let num := if 0 ≤ power then digits * Nat.pow 10 power.toNat else digits
  let den := if 0 ≤ power then 1 else Nat.pow 10 (-power).toNat
  scaled num den unit

/-- The decimal `digits · 10 ^ power` rounds to `x`. -/
def Binary64.readsBack (x : Binary64) (digits : Nat) (power : Int) : Bool :=
  let (n, d) := decimalInUnits digits power (x.exponent - 2)
  let i := x.interval
  if i.closed then i.low * d ≤ n && n ≤ i.high * d else i.low * d < n && n < i.high * d

/-- The greatest `k` with `10 ^ k ≤ num / den`, both being positive. -/
def floorLog10 (num den : Nat) : Int :=
  if den ≤ num then ((Nat.toDigits 10 (num / den)).length : Int) - 1
  else
    let k := (Nat.toDigits 10 (den / num)).length - 1
    if den ≤ num * Nat.pow 10 k then -(k : Int) else -(k : Int) - 1

/-- The decimal with `count` digits that is nearest to `x` among those that round to it. -/
def Binary64.onGrid (x : Binary64) (count : Nat) : Option (Nat × Int) :=
  let (num, den) := x.ratio
  let power := floorLog10 num den - (count : Int) + 1
  let (n, d) :=
    if 0 ≤ power then (num, den * Nat.pow 10 power.toNat)
    else (num * Nat.pow 10 (-power).toNat, den)
  let below := n / d
  let upper := nearestEven n d
  let other := if upper = below then below + 1 else below
  if x.readsBack upper power then some (upper, power)
  else if x.readsBack other power then some (other, power)
  else none

/-- The first count of digits from `count` on, of `fuel` many, with a decimal that rounds to `x`. -/
def Binary64.firstGrid (x : Binary64) (count : Nat) : (fuel : Nat) → Nat × Int
  | 0 => (x.coefficient, 0)
  | fuel + 1 => (x.onGrid count).getD (x.firstGrid (count + 1) fuel)

/-- Digits and power of ten of the shortest decimal for a number other than zero; the last digit is
not zero. -/
def Binary64.shortest (x : Binary64) : Nat × Int :=
  let (digits, power) := x.firstGrid 1 17
  if digits = 10 then (1, power + 1) else (digits, power)

end EventLedger.Decimal
