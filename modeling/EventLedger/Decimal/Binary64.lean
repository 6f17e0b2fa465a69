/-!
# Binary floating-point numbers of 64 bits

A finite number is a sign, a coefficient below `2 ^ 53` and a power of two. Every operation rounds
an exact quotient of natural numbers once, to the nearest number, a tie going to the even
coefficient.

* `Binary64.ofRatio`: the number nearest to a quotient, or nothing beyond the largest number;
* `Binary64.mul`, `Binary64.div`: rounded product and quotient;
* `Binary64.sameValue`: equality of values, for which both zeros are equal.
-/

namespace EventLedger.Decimal

/-- The finite number `± coefficient · 2 ^ exponent`. -/
structure Binary64 where
  negative : Bool
  coefficient : Nat
  exponent : Int
  deriving DecidableEq, Repr

/-- The power of two of the smallest numbers. -/
def Binary64.leastExponent : Int := -1074

/-- The power of two of the largest numbers. -/
def Binary64.greatestExponent : Int := 971

/-- Zero with a sign. -/
def Binary64.zero (negative : Bool) : Binary64 := ⟨negative, 0, Binary64.leastExponent⟩

/-- The quotient `num / den` to the nearest natural number, a tie going to the even one. -/
def nearestEven (num den : Nat) : Nat :=
  let q := num / den
  let rest := 2 * (num % den)
  if den < rest ∨ (rest = den ∧ q % 2 = 1) then q + 1 else q

/-- The quotient `(num / den) / 2 ^ e` as a quotient of natural numbers. -/
def scaled (num den : Nat) (e : Int) : Nat × Nat :=
  if 0 ≤ e then (num, den * Nat.pow 2 e.toNat) else (num * Nat.pow 2 (-e).toNat, den)

/-- The greatest `k` with `2 ^ k ≤ num / den`, both being positive. -/
def floorLog2 (num den : Nat) : Int :=
  let k : Int := (Nat.log2 num : Int) - (Nat.log2 den : Int)
  let (n, d) := scaled num den k
  if d ≤ n then k else k - 1

/-- The number nearest to `± num / den`, a tie going to the even coefficient; nothing if it would be
beyond the largest number. -/
def Binary64.ofRatio (negative : Bool) (num den : Nat) : Option Binary64 :=
  if num = 0 then some (.zero negative)
  else
    let e := max (floorLog2 num den - 52) Binary64.leastExponent
    let (n, d) := scaled num den e
    let q := nearestEven n d
    let (coefficient, exponent) := if q = Nat.pow 2 53 then (Nat.pow 2 52, e + 1) else (q, e)
    if Binary64.greatestExponent < exponent then none else some ⟨negative, coefficient, exponent⟩

/-- The magnitude as a quotient of natural numbers. -/
def Binary64.ratio (x : Binary64) : Nat × Nat :=
  if 0 ≤ x.exponent then (x.coefficient * Nat.pow 2 x.exponent.toNat, 1)
  else (x.coefficient, Nat.pow 2 (-x.exponent).toNat)

/-- The number is one of the two zeros. -/
def Binary64.isZero (x : Binary64) : Bool := x.coefficient == 0

/-- The number with the other sign. -/
def Binary64.neg (x : Binary64) : Binary64 := ⟨!x.negative, x.coefficient, x.exponent⟩

/-- The rounded product. -/
def Binary64.mul (x y : Binary64) : Option Binary64 :=
  let (a, b) := x.ratio
  let (c, d) := y.ratio
  Binary64.ofRatio (x.negative != y.negative) (a * c) (b * d)

/-- The rounded quotient by a number other than zero. -/
def Binary64.div (x y : Binary64) : Option Binary64 :=
  let (a, b) := x.ratio
  let (c, d) := y.ratio
  Binary64.ofRatio (x.negative != y.negative) (a * d) (b * c)

/-- Both stand for the same value; the sign of zero does not matter. -/
def Binary64.sameValue (x y : Binary64) : Bool := x == y || (x.isZero && y.isZero)

end EventLedger.Decimal
