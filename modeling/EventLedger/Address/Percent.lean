import EventLedger.Text.Integer
import EventLedger.Text.Segments
import EventLedger.Text.Utf8

/-!
# Percent signs in addresses

In an address, a percent sign with two hexadecimal digits stands for a byte. A percent sign without
them stands for itself.

* `Percent.decode`, `Percent.bytes`, `Percent.read`: bytes without such escapes;
* `Percent.pairs`: the names and values of a query.
-/

namespace EventLedger.Percent

/-- The value of a byte as a hexadecimal digit. -/
def hexValue? (b : UInt8) : Option Nat := Text.hexDigit? (Char.ofNat b.toNat)

/-- The byte that three bytes stand for. -/
def escape? (sign high low : UInt8) : Option UInt8 :=
  if sign = 0x25 then do
    let h ← hexValue? high
    let l ← hexValue? low
    pure (UInt8.ofNat (16 * h + l))
  else none

/-- Bytes with every escape replaced by its byte. -/
def decode : List UInt8 → List UInt8
  | b :: high :: low :: rest =>
    match escape? b high low with
    | some value => value :: decode rest
    | none => b :: decode (high :: low :: rest)
  | bytes => bytes

/-- The bytes that characters of an address stand for. -/
def bytes (cs : List Char) : List UInt8 := decode (Utf8.encode cs)

/-- The characters that characters of an address stand for. -/
def read (cs : List Char) : Except Utf8.Fault (List Char) := Utf8.read (bytes cs)

/-- A name or a value of a query; a plus sign stands for a blank. -/
def formText (cs : List Char) : String :=
  String.ofList (Utf8.readLossy (bytes (cs.map fun c => if c = '+' then ' ' else c)))

/-- The names and values of a query. -/
def pairs (query : List Char) : List (String × String) :=
  ((Text.segments '&' query).filter fun item => !item.isEmpty).map fun item =>
    let name := item.takeWhile (· ≠ '=')
    (formText name, formText (item.drop (name.length + 1)))

end EventLedger.Percent
