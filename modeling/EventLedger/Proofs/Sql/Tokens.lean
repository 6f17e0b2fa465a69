import EventLedger.Sql.Store

/-!
# Words of a statement

A database gets the text of a statement and, beside it, the values. It takes the text apart at
blanks, marks and quotes, and looks up the words.

* `Lexeme`, `readChars`, `lexemesFrom`: the parts of a text, read from left to right;
* `Token`, `tokens`: the same with words looked up;
* `tokensFrom_append`, `tokensFrom_ends`: texts that are read one after the other;
* `endedToken_name`, **`endedToken_placeLetters`**: names of columns and numbers of places.
-/

namespace EventLedger.Sql

/-! ## Lexemes -/

/-- A part of a text that belongs together. -/
inductive Lexeme where
  | word (letters : String)
  /-- A dollar sign with a number. -/
  | place (number : Nat)
  | mark (c : Char)
  /-- A text between single quotes. -/
  | quoted (letters : String)
  deriving DecidableEq

/-- What has been read of a part that has not ended yet. -/
inductive Begun where
  | word (letters : List Char)
  | quoted (letters : List Char)
  deriving DecidableEq

/-- No quote is open. -/
def Begun.isWord : Begun → Bool
  | .word _ => true
  | .quoted _ => false

/-- A word that has ended; without a letter it is none. -/
def endedWord : List Char → List Lexeme
  | [] => []
  | c :: cs =>
    if c = '$' ∧ cs ≠ [] ∧ cs.all Char.isDigit then [.place (Nat.ofDigitChars 10 cs 0)]
    else [.word (String.ofList (c :: cs))]

/-- The character is a part by itself. -/
def isMark (c : Char) : Bool := c == '(' || c == ')' || c == ','

/-- What one more character ends, and what is begun behind it. -/
def readChar (c : Char) : Begun → List Lexeme × Begun
  | .quoted q => if c = '\'' then ([.quoted (String.ofList q)], .word []) else ([], .quoted (q ++ [c]))
  | .word w =>
    if c = ' ' then (endedWord w, .word [])
    else if c = '\'' then (endedWord w, .quoted [])
    else if isMark c then (endedWord w ++ [.mark c], .word [])
    else ([], .word (w ++ [c]))

/-- What a text ends, and what is begun behind it. -/
def readChars : Begun → List Char → List Lexeme × Begun
  | b, [] => ([], b)
  | b, c :: cs =>
    let (ended, begun) := readChar c b
    let (rest, last) := readChars begun cs
    (ended ++ rest, last)

/-- The end of a text. A quote that does not end is a lonely mark. -/
def readEnd : Begun → List Lexeme
  | .word w => endedWord w
  | .quoted _ => [.mark '\'']

/-- The parts of a text behind what has been begun. -/
def lexemesFrom (b : Begun) (cs : List Char) : List Lexeme :=
  (readChars b cs).1 ++ readEnd (readChars b cs).2

theorem readChars_cons (b : Begun) (c : Char) (cs : List Char) :
    readChars b (c :: cs) =
      ((readChar c b).1 ++ (readChars (readChar c b).2 cs).1, (readChars (readChar c b).2 cs).2) :=
  rfl

theorem readChars_append (b : Begun) (cs ds : List Char) :
    readChars b (cs ++ ds) =
      ((readChars b cs).1 ++ (readChars (readChars b cs).2 ds).1,
        (readChars (readChars b cs).2 ds).2) := by
  induction cs generalizing b with
  | nil => rfl
  | cons c cs ih =>
    simp only [List.cons_append, readChars_cons, ih, List.append_assoc]

/-- **Reading goes on behind what has been read.** -/
theorem lexemesFrom_append (b : Begun) (cs ds : List Char) :
    lexemesFrom b (cs ++ ds) = (readChars b cs).1 ++ lexemesFrom (readChars b cs).2 ds := by
  simp only [lexemesFrom, readChars_append, List.append_assoc]

/-! ## Tokens -/

/-- A part of a statement as the database understands it. -/
inductive Token where
  | SELECT
  | COUNT
  | STAR
  | FROM
  /-- The name of the table of records. -/
  | RECORDS
  | WHERE
  | TRUE
  | AND
  | OR
  | EXISTS
  | ANY
  | LIKE
  | ILIKE
  | EQUALS
  | ATLEAST
  | ATMOST
  | ORDER
  | BY
  | COLLATE
  /-- The collation that compares bytes. -/
  | BYTES
  | ASC
  | DESC
  | LIMIT
  | OFFSET
  | OPEN
  | CLOSE
  | COMMA
  | column (c : Column)
  | place (number : Nat)
  | quoted (s : String)
  /-- Anything else. -/
  | other (s : String)
  deriving DecidableEq

namespace Token

/-- The words of the language. -/
def vocabulary : List (String × Token) := [
  ("SELECT", SELECT), ("COUNT", COUNT), ("*", STAR), ("FROM", FROM), ("audit_records", RECORDS),
  ("WHERE", WHERE), ("TRUE", TRUE), ("AND", AND), ("OR", OR), ("EXISTS", EXISTS), ("ANY", ANY),
  ("LIKE", LIKE), ("ILIKE", ILIKE), ("=", EQUALS), (">=", ATLEAST), ("<=", ATMOST),
  ("ORDER", ORDER), ("BY", BY), ("COLLATE", COLLATE), ("\"C\"", BYTES), ("ASC", ASC),
  ("DESC", DESC), ("LIMIT", LIMIT), ("OFFSET", OFFSET)]

/-- A word, or the name of a column. -/
def ofWord (s : String) : Token :=
  match vocabulary.lookup s with
  | some t => t
  | none =>
    match selectedColumns.find? fun c => c.name == s with
    | some c => column c
    | none => other s

/-- A lexeme looked up. -/
def ofLexeme : Lexeme → Token
  | .word s => ofWord s
  | .place n => place n
  | .mark '(' => OPEN
  | .mark ')' => CLOSE
  | .mark ',' => COMMA
  | .mark c => other (String.singleton c)
  | .quoted s => quoted s

end Token

/-- The tokens behind what has been begun. -/
def tokensFrom (b : Begun) (cs : List Char) : List Token := (lexemesFrom b cs).map Token.ofLexeme

/-- The tokens of a text. -/
def tokens (text : String) : List Token := tokensFrom (.word []) text.toList

/-- The token of a word that has ended. -/
def endedToken (w : List Char) : List Token := (endedWord w).map Token.ofLexeme

/-! ## Words and blanks -/

/-- The character belongs to a word. -/
def isPlain (c : Char) : Bool := c != ' ' && c != '\'' && !isMark c

theorem readChars_plain {p : List Char} (hp : p.all isPlain = true) (w : List Char) :
    readChars (.word w) p = ([], .word (w ++ p)) := by
  induction p generalizing w with
  | nil => rw [List.append_nil, readChars]
  | cons c p ih =>
    obtain ⟨h1, h2⟩ := Bool.and_eq_true_iff.mp (List.all_cons ▸ hp)
    simp only [isPlain, Bool.and_eq_true, bne_iff_ne, Bool.not_eq_true'] at h1
    have h3 : readChar c (.word w) = ([], .word (w ++ [c])) := by
      rw [readChar, if_neg h1.1.1, if_neg h1.1.2, h1.2, if_neg Bool.false_ne_true]
    rw [readChars_cons, h3, ih h2, List.append_assoc, List.singleton_append, List.nil_append]

theorem tokensFrom_plain {p : List Char} (hp : p.all isPlain = true) (w rest : List Char) :
    tokensFrom (.word w) (p ++ rest) = tokensFrom (.word (w ++ p)) rest := by
  rw [tokensFrom, lexemesFrom_append, readChars_plain hp]
  rfl

/-- The text begins with a blank or a mark. -/
def endsWord : List Char → Bool
  | [] => false
  | c :: _ => c == ' ' || isMark c

theorem readChars_of_endsWord {cs : List Char} (h : endsWord cs = true) (w : List Char) :
    readChars (.word w) cs =
      (endedWord w ++ (readChars (.word []) cs).1, (readChars (.word []) cs).2) := by
  cases cs with
  | nil => exact absurd h Bool.false_ne_true
  | cons c cs =>
    have h1 : readChar c (.word w) =
        (endedWord w ++ (readChar c (.word [])).1, (readChar c (.word [])).2) := by
      rcases Bool.or_eq_true_iff.mp h with hblank | hmark
      · simp only [readChar, if_pos (beq_iff_eq.mp hblank), endedWord, List.append_nil]
      · have hne : c ≠ ' ' ∧ c ≠ '\'' := by
          constructor <;> rintro rfl <;> exact Bool.false_ne_true hmark
        simp only [readChar, if_neg hne.1, if_neg hne.2, if_pos hmark, endedWord, List.nil_append]
    rw [readChars_cons, readChars_cons, h1, List.append_assoc]

/-- What follows ends the word in front of it. -/
def Continues (rest : List Char) : Prop := rest = [] ∨ endsWord rest = true

theorem Continues.append {cs rest : List Char} (h : Continues cs) (hr : Continues rest) :
    Continues (cs ++ rest) := by
  rcases h with rfl | h
  · exact hr
  · cases cs with
    | nil => exact hr
    | cons c cs => exact Or.inr h

theorem tokensFrom_continues {rest : List Char} (h : Continues rest) (w : List Char) :
    tokensFrom (.word w) rest = endedToken w ++ tokensFrom (.word []) rest := by
  rw [tokensFrom, tokensFrom, endedToken, ← List.map_append]
  refine congrArg _ ?_
  rcases h with rfl | h
  · exact (List.append_nil _).symm
  · rw [lexemesFrom, readChars_of_endsWord h, lexemesFrom, List.append_assoc]

theorem tokensFrom_append {cs rest : List Char}
    (hq : (readChars (.word []) cs).2.isWord = true) (hr : Continues rest) :
    tokensFrom (.word []) (cs ++ rest) = tokensFrom (.word []) cs ++ tokensFrom (.word []) rest := by
  obtain ⟨w, hw⟩ : ∃ w, (readChars (.word []) cs).2 = .word w := by
    cases hb : (readChars (.word []) cs).2 with
    | word w => exact ⟨w, rfl⟩
    | quoted q =>
      rw [hb] at hq
      exact absurd hq Bool.false_ne_true
  have h : tokensFrom (.word []) cs =
      (readChars (.word []) cs).1.map Token.ofLexeme ++ endedToken w := by
    rw [tokensFrom, lexemesFrom, hw, List.map_append]
    rfl
  rw [h, tokensFrom, lexemesFrom_append, hw, List.map_append, List.append_assoc]
  exact congrArg _ (tokensFrom_continues hr w)

/-- A text that ends the word in front of it, leaves no word behind it and is read as these tokens. -/
structure Ends (text : String) (ts : List Token) : Prop where
  begins : endsWord text.toList = true
  reads : (readChars (.word []) text.toList).1.map Token.ofLexeme = ts
  leaves : (readChars (.word []) text.toList).2 = .word []

instance (text : String) (ts : List Token) : Decidable (Ends text ts) :=
  decidable_of_iff (endsWord text.toList = true ∧
      (readChars (.word []) text.toList).1.map Token.ofLexeme = ts ∧
      (readChars (.word []) text.toList).2 = .word [])
    ⟨fun ⟨h1, h2, h3⟩ => ⟨h1, h2, h3⟩, fun ⟨h1, h2, h3⟩ => ⟨h1, h2, h3⟩⟩

theorem tokensFrom_ends {text : String} {ts : List Token} (h : Ends text ts) (w rest : List Char) :
    tokensFrom (.word w) (text.toList ++ rest) =
      endedToken w ++ (ts ++ tokensFrom (.word []) rest) := by
  rw [tokensFrom, lexemesFrom_append, readChars_of_endsWord h.begins, h.leaves, List.map_append,
    List.map_append, h.reads, List.append_assoc]
  rfl

/-! ## Names and numbers -/

theorem endedToken_name (c : Column) :
    c.name.toList.all isPlain = true ∧ endedToken c.name.toList = [.column c] := by
  cases c <;> decide +kernel

theorem tokensFrom_name (c : Column) (rest : List Char) :
    tokensFrom (.word []) (c.name.toList ++ rest) = tokensFrom (.word c.name.toList) rest :=
  tokensFrom_plain (endedToken_name c).1 [] rest

theorem isPlain_of_isDigit {c : Char} (h : c.isDigit = true) : isPlain c = true := by
  have h1 : ∀ d : Char, d.isDigit = false → c ≠ d := by
    rintro d hd rfl
    exact Bool.false_ne_true (hd.symm.trans h)
  simp only [isPlain, isMark, Bool.and_eq_true, bne_iff_ne, Bool.not_eq_true', Bool.or_eq_false_iff,
    beq_eq_false_iff_ne]
  exact ⟨⟨h1 _ rfl, h1 _ rfl⟩, ⟨h1 _ rfl, h1 _ rfl⟩, h1 _ rfl⟩

/-- The letters of a place. -/
def placeLetters (n : Nat) : List Char := '$' :: Nat.toDigits 10 n

theorem all_isPlain_placeLetters (n : Nat) : (placeLetters n).all isPlain = true := by
  refine List.all_eq_true.mpr fun c hc => ?_
  rcases List.mem_cons.mp hc with rfl | hc
  · rfl
  · exact isPlain_of_isDigit (Nat.isDigit_of_mem_toDigits (by decide) (by decide) hc)

/-- **A place is known by its number.** -/
theorem endedToken_placeLetters (n : Nat) : endedToken (placeLetters n) = [.place n] := by
  have h1 : (Nat.toDigits 10 n).all Char.isDigit = true :=
    List.all_eq_true.mpr fun c hc => Nat.isDigit_of_mem_toDigits (by decide) (by decide) hc
  rw [endedToken, placeLetters, endedWord, if_pos ⟨rfl, Nat.toDigits_ne_nil, h1⟩,
    Nat.ofDigitChars_ten_toDigits]
  rfl

theorem tokensFrom_placeLetters (n : Nat) (rest : List Char) :
    tokensFrom (.word []) (placeLetters n ++ rest) = tokensFrom (.word (placeLetters n)) rest :=
  tokensFrom_plain (all_isPlain_placeLetters n) [] rest

end EventLedger.Sql
