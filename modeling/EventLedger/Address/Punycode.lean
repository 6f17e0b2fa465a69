import EventLedger.Text.Integer

/-!
# Encoded labels

A label of a name can be written with letters, digits and hyphens only. Behind its plain characters
and a hyphen stand numbers, which say, one after the other, where the further characters go and how
far each one is behind the one before. The digits of a number grow in weight; the last one is below
a threshold, and thresholds follow the size of the numbers so far.

* `Punycode.digit?`, `threshold`, `nextBias`: digits, and where a number ends;
* `Punycode.number?`: one number;
* `Punycode.decode`: the characters of an encoded label.
-/

namespace EventLedger.Punycode

/-- The value of a digit: letters count from 0, figures go on from 26. -/
def digit? (c : Char) : Option Nat :=
  if 'a' ≤ c ∧ c ≤ 'z' then some (c.toNat - 'a'.toNat)
  else (Text.digit? c).map (· + 26)

/-- The numbers that fit in 32 bits. -/
def fitting (n : Nat) : Option Nat := if n < Nat.pow 2 32 then some n else none

/-- The last digit at place `k` is below this. -/
def threshold (bias k : Nat) : Nat := max 1 (min 26 (k - bias))

/-- A number by its digits from place `k` on, each of which counts `weight` times, added to `sum`;
and what stands behind it. -/
def number? (bias : Nat) : (k weight sum : Nat) → List Char → Option (Nat × List Char)
  | _, _, _, [] => none
  | k, weight, sum, c :: rest => do
    let d ← digit? c
    let sum ← fitting (sum + d * weight)
    let t := threshold bias k
    if d < t then pure (sum, rest)
    else number? bias (k + 36) (← fitting (weight * (36 - t))) sum rest

/-- The bias for the size of a number, found by dividing; `k` places are left behind. -/
def biasFrom (k delta : Nat) : Nat :=
  if 455 < delta then biasFrom (k + 36) (delta / 35) else k + 36 * delta / (delta + 38)
termination_by delta

/-- The bias behind a number, when there are `count` characters. The first number is damped. -/
def nextBias (isFirst : Bool) (number count : Nat) : Nat :=
  let delta := if isFirst then number / 700 else number / 2
  biasFrom 0 (delta + delta / count)

/-- A code point that stands for a character. -/
def character? (n : Nat) : Option Char := if n.isValidChar then some (Char.ofNat n) else none

/-- The characters of a label, of which `done` are known and the numbers are to be read. The next
character is not before place `i` if it is the character `n`, or else anywhere. A number takes one
digit at least, so that `fuel` is enough if it is the number of digits. -/
def decodeFrom : (fuel n i bias : Nat) → (done digits : List Char) → Option (List Char)
  | _, _, _, _, done, [] => some done
  | 0, _, _, _, _, _ :: _ => none
  | fuel + 1, n, i, bias, done, digits => do
    let (sum, rest) ← number? bias 36 1 i digits
    let count := done.length + 1
    let n := n + sum / count
    let c ← character? n
    let place := sum % count
    decodeFrom fuel n (place + 1) (nextBias (i == 0) (sum - i) count)
      (done.insertIdx place c) rest

/-- The characters that an encoded label stands for. Its plain characters end at the last hyphen. -/
def decode (label : List Char) : Option (List Char) :=
  let digits := (label.reverse.takeWhile (· ≠ '-')).reverse
  let plain := label.take (label.length - digits.length - 1)
  let digits := if plain.isEmpty then label else digits
  decodeFrom digits.length 128 0 72 plain digits

end EventLedger.Punycode
