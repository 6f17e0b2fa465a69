/-!
# Whole numbers in text

A number is written as an optional sign and decimal digits. The minus sign is known only to types
that hold negative numbers. Reading goes digit by digit, so of a stray character and a value out of
range the one met first is reported.

* `IntegerError`, `IntegerError.message`: why a text is no number of the type;
* `IntegerType`: the range of a type; `u16`, `u32`, `u64`, `i32`, `i64`;
* `IntegerType.ofInt?`: numbers that may leave their type;
* `readInteger`: the reader.
-/

namespace EventLedger.Text

/-- Why a text does not denote a number of a type. -/
inductive IntegerError where
  /-- There is no character at all. -/
  | empty
  /-- Some character is not a digit, or only a sign is there. -/
  | invalidDigit
  /-- The value is above the type's range. -/
  | tooLarge
  /-- The value is below the type's range. -/
  | tooSmall
  deriving DecidableEq, Repr

/-- The wording of a number error. -/
def IntegerError.message : IntegerError → String
  | .empty => "cannot parse integer from empty string"
  | .invalidDigit => "invalid digit found in string"
  | .tooLarge => "number too large to fit in target type"
  | .tooSmall => "number too small to fit in target type"

/-- A range of whole numbers: from `-below` to `above`. -/
structure IntegerType where
  below : Nat
  above : Nat
  deriving DecidableEq, Repr

/-- Unsigned, 16 bits. -/
def u16 : IntegerType := ⟨0, Nat.pow 2 16 - 1⟩

/-- Unsigned, 32 bits. -/
def u32 : IntegerType := ⟨0, Nat.pow 2 32 - 1⟩

/-- Unsigned, 64 bits. -/
def u64 : IntegerType := ⟨0, Nat.pow 2 64 - 1⟩

/-- Signed, 32 bits. -/
def i32 : IntegerType := ⟨Nat.pow 2 31, Nat.pow 2 31 - 1⟩

/-- Signed, 64 bits. -/
def i64 : IntegerType := ⟨Nat.pow 2 63, Nat.pow 2 63 - 1⟩

/-- The range holds `n`. -/
def IntegerType.holds (t : IntegerType) (n : Int) : Bool := -(t.below : Int) ≤ n && n ≤ t.above

theorem IntegerType.holds_iff {t : IntegerType} {n : Int} :
    t.holds n = true ↔ -(t.below : Int) ≤ n ∧ n ≤ t.above := by
  rw [holds, Bool.and_eq_true, decide_eq_true_iff, decide_eq_true_iff]

/-- A number as one of the type; nothing if the range does not hold it. -/
def IntegerType.ofInt? (t : IntegerType) (n : Int) : Option Int := if t.holds n then some n else none

theorem IntegerType.ofInt?_of_holds {t : IntegerType} {n : Int} (h : t.holds n = true) :
    t.ofInt? n = some n := if_pos h

theorem IntegerType.ofInt?_eq_none_iff {t : IntegerType} {n : Int} :
    t.ofInt? n = none ↔ t.holds n = false := by
  simp [ofInt?]

/-- The value of a decimal digit. -/
def digit? (c : Char) : Option Nat :=
  if '0' ≤ c ∧ c ≤ '9' then some (c.toNat - '0'.toNat) else none

/-- The value of a hexadecimal digit. -/
def hexDigit? (c : Char) : Option Nat :=
  if '0' ≤ c ∧ c ≤ '9' then some (c.toNat - '0'.toNat)
  else if 'a' ≤ c ∧ c ≤ 'f' then some (c.toNat - 'a'.toNat + 10)
  else if 'A' ≤ c ∧ c ≤ 'F' then some (c.toNat - 'A'.toNat + 10)
  else none

/-- The value of decimal digits after `acc`, as long as it stays within `limit`. -/
def readDigits (limit : Nat) (overflow : IntegerError) : Nat → List Char → Except IntegerError Nat
  | acc, [] => .ok acc
  | acc, c :: cs =>
    match digit? c with
    | none => .error .invalidDigit
    | some d =>
      let next := acc * 10 + d
      if limit < next then .error overflow else readDigits limit overflow next cs

/-- The number of type `t` that a list of characters denotes. -/
def readInteger (t : IntegerType) : List Char → Except IntegerError Int
  | [] => .error .empty
  | ['+'] => .error .invalidDigit
  | ['-'] => .error .invalidDigit
  | '+' :: cs => (readDigits t.above .tooLarge 0 cs).map Int.ofNat
  | '-' :: cs =>
    if t.below = 0 then .error .invalidDigit
    else (readDigits t.below .tooSmall 0 cs).map (fun n => -(n : Int))
  | cs => (readDigits t.above .tooLarge 0 cs).map Int.ofNat

/-- The natural number of an unsigned type that a text denotes. -/
def readNat (t : IntegerType) (s : String) : Except IntegerError Nat :=
  (readInteger t s.toList).map Int.toNat

/-- A natural number in decimal, with zeros in front up to `width` digits. -/
def padded (width n : Nat) : String :=
  let digits := Nat.toDigits 10 n
  String.ofList (List.replicate (width - digits.length) '0' ++ digits)

end EventLedger.Text
