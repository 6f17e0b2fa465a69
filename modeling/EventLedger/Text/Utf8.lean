/-!
# Characters from bytes

UTF-8 writes a character in one to four bytes. Where bytes do not go on as a character they have
begun, what they have begun is one fault, and reading goes on with the byte that does not fit.

* `Utf8.encode`: the bytes of characters;
* `Utf8.Fault`, `Utf8.Fault.message`: a place where bytes are no characters;
* `Utf8.Piece`, `Utf8.pieces`: bytes read as characters and faults;
* `Utf8.read`, `Utf8.readLossy`: the characters of faultless bytes, and those of any bytes.
-/

namespace EventLedger.Utf8

/-- The bytes of characters. -/
def encode (cs : List Char) : List UInt8 := cs.flatMap String.utf8EncodeChar

/-- A place where bytes are no characters. -/
structure Fault where
  /-- The number of bytes in front of it. -/
  index : Nat
  /-- The number of its bytes; absent where the bytes end within a character. -/
  length : Option Nat
  deriving DecidableEq, Repr

/-- The fault in words. -/
def Fault.message (f : Fault) : String :=
  match f.length with
  | some n =>
    "invalid utf-8 sequence of " ++ toString n ++ " bytes from index " ++ toString f.index
  | none => "incomplete utf-8 byte sequence from index " ++ toString f.index

/-- A character or a fault. -/
inductive Piece where
  | character (c : Char)
  | fault (f : Fault)
  deriving DecidableEq, Repr

/-- A character that has begun and needs more bytes. -/
structure Opening where
  /-- Its bits so far. -/
  value : Nat
  /-- The number of its bytes so far. -/
  taken : Nat
  /-- The number of bytes it still needs. -/
  owed : Nat
  /-- The bounds of the next byte. -/
  low : Nat
  high : Nat

/-- The character that a byte begins, if it is the first of several. The bounds of the second byte
leave out longer spellings than needed, surrogates and values behind the last character. -/
def opening? (b : Nat) : Option Opening :=
  if 0xC2 ≤ b ∧ b ≤ 0xDF then some ⟨b - 0xC0, 1, 1, 0x80, 0xBF⟩
  else if b = 0xE0 then some ⟨0, 1, 2, 0xA0, 0xBF⟩
  else if b = 0xED then some ⟨0xD, 1, 2, 0x80, 0x9F⟩
  else if 0xE1 ≤ b ∧ b ≤ 0xEF then some ⟨b - 0xE0, 1, 2, 0x80, 0xBF⟩
  else if b = 0xF0 then some ⟨0, 1, 3, 0x90, 0xBF⟩
  else if b = 0xF4 then some ⟨4, 1, 3, 0x80, 0x8F⟩
  else if 0xF1 ≤ b ∧ b ≤ 0xF3 then some ⟨b - 0xF0, 1, 3, 0x80, 0xBF⟩
  else none

/-- A byte between characters: what it completes, and what it begins. -/
def start (index b : Nat) : List Piece × Option Opening :=
  if b < 0x80 then ([.character (Char.ofNat b)], none)
  else
    match opening? b with
    | some o => ([], some o)
    | none => ([.fault ⟨index, some 1⟩], none)

/-- A byte behind what has begun: what it completes, and what is begun after it. -/
def next (index b : Nat) : Option Opening → List Piece × Option Opening
  | none => start index b
  | some o =>
    if o.low ≤ b ∧ b ≤ o.high then
      let value := 64 * o.value + (b - 0x80)
      if o.owed ≤ 1 then ([.character (Char.ofNat value)], none)
      else ([], some ⟨value, o.taken + 1, o.owed - 1, 0x80, 0xBF⟩)
    else
      let (pieces, begun) := start index b
      (.fault ⟨index - o.taken, some o.taken⟩ :: pieces, begun)

/-- Bytes read from an index on, after what has begun in front of it. -/
def piecesFrom (index : Nat) : (begun : Option Opening) → List UInt8 → List Piece
  | none, [] => []
  | some o, [] => [.fault ⟨index - o.taken, none⟩]
  | begun, b :: rest =>
    let (pieces, begun) := next index b.toNat begun
    pieces ++ piecesFrom (index + 1) begun rest

/-- Bytes read as characters and faults. -/
def pieces (bytes : List UInt8) : List Piece := piecesFrom 0 none bytes

/-- The characters in front of the first fault, which is an error. -/
def characters : List Piece → Except Fault (List Char)
  | [] => .ok []
  | .character c :: rest => (characters rest).map (c :: ·)
  | .fault f :: _ => .error f

/-- The characters of bytes, or the first fault in them. -/
def read (bytes : List UInt8) : Except Fault (List Char) := characters (pieces bytes)

/-- The character that stands for a fault. -/
def replacement : Char := Char.ofNat 0xFFFD

/-- The characters of bytes, with the replacement character for each fault. -/
def readLossy (bytes : List UInt8) : List Char :=
  (pieces bytes).map fun
    | .character c => c
    | .fault _ => replacement

end EventLedger.Utf8
