import EventLedger.Proofs.Sql.Tokens

/-!
# Clauses of a selection

Every clause of a selection is read in one way, wherever it stands, and its places are numbered behind
those in front of it.

* `ReadAs`, `ReadAs.append`: parts of a statement in a row;
* **`readAs_condition`**, `readAs_whereClause`, `readAs_orderClause`, `readAs_limits`: the clauses;
* **`tokens_pageSelection`**, `tokens_counting`: the whole statements.
-/

namespace EventLedger.Sql

/-! ## Parts of a statement -/

namespace Statement

@[simp]
theorem toList_textFrom_nil (n : Nat) : (textFrom n []).toList = [] := rfl

@[simp]
theorem toList_textFrom_text (n : Nat) (s : String) (rest : Statement) :
    (textFrom n (.text s :: rest)).toList = s.toList ++ (textFrom n rest).toList :=
  String.toList_append

@[simp]
theorem toList_textFrom_place (n : Nat) (v : Value) (rest : Statement) :
    (textFrom n (.place v :: rest)).toList =
      placeLetters n ++ (textFrom (n + 1) rest).toList := by
  have h : (toString n).toList = Nat.toDigits 10 n := by
    rw [Nat.toString_eq_ofList_toDigits, String.toList_ofList]
  rw [textFrom, String.toList_append, String.toList_append, h]
  rfl

@[simp]
theorem values_text (s : String) (rest : Statement) : values (.text s :: rest) = values rest := rfl

@[simp]
theorem values_place (v : Value) (rest : Statement) :
    values (.place v :: rest) = v :: values rest := rfl

theorem values_append (s t : Statement) : (s ++ t).values = s.values ++ t.values :=
  List.filterMap_append

theorem textFrom_append (n : Nat) (s t : Statement) :
    textFrom n (s ++ t) = textFrom n s ++ textFrom (n + s.values.length) t := by
  induction s generalizing n with
  | nil => exact String.empty_append.symm
  | cons p s ih =>
    cases p with
    | text a => rw [List.cons_append, textFrom, ih, textFrom, String.append_assoc, values_text]
    | place v =>
      rw [List.cons_append, textFrom, ih, textFrom, values_place, List.length_cons, Nat.add_assoc,
        Nat.add_comm 1, String.append_assoc, String.append_assoc, String.append_assoc]

end Statement

open Statement (textFrom values)

/-- A part whose first place has number `n` is read as these tokens, wherever it stands in front of
a blank or the end. It begins with a blank itself. -/
structure ReadAs (s : Statement) (n : Nat) (ts : List Token) : Prop where
  begins : Continues (textFrom n s).toList
  reads : ∀ rest, Continues rest →
    tokensFrom (.word []) ((textFrom n s).toList ++ rest) = ts ++ tokensFrom (.word []) rest

namespace ReadAs

theorem nil (n : Nat) : ReadAs [] n [] := ⟨Or.inl rfl, fun _ _ => rfl⟩

/-- **Parts in a row are read one after the other.** -/
theorem append {s t : Statement} {n : Nat} {ts us : List Token} (hs : ReadAs s n ts)
    (ht : ReadAs t (n + (values s).length) us) : ReadAs (s ++ t) n (ts ++ us) := by
  constructor
  · rw [Statement.textFrom_append, String.toList_append]
    exact hs.begins.append ht.begins
  · intro rest hr
    rw [Statement.textFrom_append, String.toList_append, List.append_assoc,
      hs.reads _ (ht.begins.append hr), ht.reads rest hr, List.append_assoc]

theorem tokens_eq {s : Statement} {n : Nat} {ts : List Token} (h : ReadAs s n ts) :
    tokens (textFrom n s) = ts := by
  have h1 := h.reads [] (Or.inl rfl)
  rw [List.append_nil] at h1
  rw [tokens, h1]
  exact List.append_nil ts

end ReadAs

/-! ## Conditions -/

/-- What is searched for the scalars in the metadata, up to the pattern. -/
def leafSearch : List Token := [
  .OR, .EXISTS, .OPEN, .SELECT, .other "1", .FROM, .other "jsonb_path_query", .OPEN,
  .column .metadata, .COMMA, .quoted "strict $.**", .CLOSE, .other "AS", .other "leaf", .OPEN,
  .other "value", .CLOSE, .WHERE, .other "jsonb_typeof", .OPEN, .other "leaf.value", .CLOSE,
  .other "IN", .OPEN, .quoted "string", .COMMA, .quoted "number", .COMMA, .quoted "boolean",
  .CLOSE, .AND, .other "leaf.value", .other "#>>", .quoted "{}", .ILIKE]

/-- The tokens of a condition whose first place has number `n`. -/
def Condition.tokensFrom (n : Nat) : Condition → List Token
  | .oneOf c _ => [.column c, .EQUALS, .ANY, .OPEN, .place n, .CLOSE]
  | .equals c _ => [.column c, .EQUALS, .place n]
  | .like c _ => [.column c, .LIKE, .place n]
  | .atLeast c _ => [.column c, .ATLEAST, .place n]
  | .atMost c _ => [.column c, .ATMOST, .place n]
  | .mentions _ =>
    [.OPEN, .column .description, .ILIKE, .place n, .OR, .column .reason, .ILIKE, .place (n + 1)] ++
      leafSearch ++ [.place (n + 2), .CLOSE, .CLOSE]

theorem ends_and : Ends " AND " [.AND] := by decide +kernel

theorem ends_close : Ends ")" [.CLOSE] := by decide +kernel

theorem ends_operators :
    Ends " = ANY(" [.EQUALS, .ANY, .OPEN] ∧ Ends " = " [.EQUALS] ∧ Ends " LIKE " [.LIKE] ∧
      Ends " >= " [.ATLEAST] ∧ Ends " <= " [.ATMOST] := by
  decide +kernel

theorem ends_search :
    Ends "(description ILIKE " [.OPEN, .column .description, .ILIKE] ∧
      Ends " OR reason ILIKE " [.OR, .column .reason, .ILIKE] ∧
      Ends (" OR EXISTS (SELECT 1 FROM jsonb_path_query(metadata, 'strict $.**') AS leaf(value)" ++
        " WHERE jsonb_typeof(leaf.value) IN ('string', 'number', 'boolean')" ++
        " AND leaf.value #>> '\x7b\x7d' ILIKE ") leafSearch ∧
      Ends "))" [.CLOSE, .CLOSE] := by
  decide +kernel

theorem readAs_comparison (c : Column) {operator : String} {t : Token} (n : Nat) (v : Value)
    (h : Ends operator [t]) :
    ReadAs [.text " AND ", .text (c.name ++ operator), .place v] n
      [.AND, .column c, t, .place n] := by
  constructor
  · rw [Statement.toList_textFrom_text]
    exact Or.inr rfl
  · intro rest hr
    simp only [Statement.toList_textFrom_text, Statement.toList_textFrom_place,
      Statement.toList_textFrom_nil, String.toList_append, List.append_assoc, List.nil_append]
    rw [tokensFrom_ends ends_and, tokensFrom_name, tokensFrom_ends h, (endedToken_name c).2,
      tokensFrom_placeLetters, tokensFrom_continues hr, endedToken_placeLetters]
    rfl

theorem readAs_oneOf (c : Column) (n : Nat) (v : Value) :
    ReadAs [.text " AND ", .text (c.name ++ " = ANY("), .place v, .text ")"] n
      [.AND, .column c, .EQUALS, .ANY, .OPEN, .place n, .CLOSE] := by
  constructor
  · rw [Statement.toList_textFrom_text]
    exact Or.inr rfl
  · intro rest hr
    simp only [Statement.toList_textFrom_text, Statement.toList_textFrom_place,
      Statement.toList_textFrom_nil, String.toList_append, List.append_assoc, List.nil_append]
    rw [tokensFrom_ends ends_and, tokensFrom_name, tokensFrom_ends ends_operators.1,
      (endedToken_name c).2, tokensFrom_placeLetters, tokensFrom_ends ends_close,
      endedToken_placeLetters]
    rfl

theorem readAs_mentions (p : String) (n : Nat) :
    ReadAs (.text " AND " :: (Condition.mentions p).pieces) n
      (.AND :: (Condition.mentions p).tokensFrom n) := by
  constructor
  · rw [Statement.toList_textFrom_text]
    exact Or.inr rfl
  · intro rest hr
    obtain ⟨hdescription, hreason, hleaf, hclose⟩ := ends_search
    simp only [Condition.pieces, Statement.toList_textFrom_text, Statement.toList_textFrom_place,
      Statement.toList_textFrom_nil, List.append_assoc, List.nil_append]
    rw [tokensFrom_ends ends_and, tokensFrom_ends hdescription, tokensFrom_placeLetters,
      tokensFrom_ends hreason, endedToken_placeLetters, tokensFrom_placeLetters,
      tokensFrom_ends hleaf, endedToken_placeLetters, tokensFrom_placeLetters,
      tokensFrom_ends hclose, endedToken_placeLetters]
    rfl

/-- **A condition is read as what it says.** -/
theorem readAs_condition (c : Condition) (n : Nat) :
    ReadAs (.text " AND " :: c.pieces) n (.AND :: c.tokensFrom n) := by
  obtain ⟨-, hequals, hlike, hleast, hmost⟩ := ends_operators
  cases c with
  | oneOf c ts => exact readAs_oneOf c n _
  | equals c t => exact readAs_comparison c n _ hequals
  | like c p => exact readAs_comparison c n _ hlike
  | atLeast c t => exact readAs_comparison c n _ hleast
  | atMost c t => exact readAs_comparison c n _ hmost
  | mentions p => exact readAs_mentions p n

/-- The tokens of conditions, each behind an `AND`, the first place having number `n`. -/
def conditionTokens : Nat → List Condition → List Token
  | _, [] => []
  | n, c :: cs => .AND :: c.tokensFrom n ++ conditionTokens (n + (values c.pieces).length) cs

theorem readAs_conditions (cs : List Condition) (n : Nat) :
    ReadAs (cs.flatMap fun c => .text " AND " :: c.pieces) n (conditionTokens n cs) := by
  induction cs generalizing n with
  | nil => exact ReadAs.nil n
  | cons c cs ih => exact (readAs_condition c n).append (ih _)

/-! ## Clauses -/

theorem readAs_text {text : String} {ts : List Token} (hb : endsWord text.toList = true)
    (hr : tokens text = ts) (hq : (readChars (.word []) text.toList).2.isWord = true) (n : Nat) :
    ReadAs [.text text] n ts := by
  constructor
  · rw [Statement.toList_textFrom_text]
    exact Continues.append (Or.inr hb) (Or.inl rfl)
  · intro rest hrest
    rw [Statement.toList_textFrom_text, Statement.toList_textFrom_nil, List.append_nil,
      tokensFrom_append hq hrest, ← hr]
    rfl

/-- The tokens of a direction. -/
def directionToken : Direction → Token
  | .ascending => .ASC
  | .descending => .DESC

/-- The tokens of the sort key in front of the sequence number. -/
def keyTokens (d : Direction) : SortField → List Token
  | .timestamp => [.column .occurredAt, directionToken d, .COMMA]
  | .eventType => [.column .eventType, .COLLATE, .BYTES, directionToken d, .COMMA]
  | .sequenceNumber => []

/-- The tokens of the clause that puts rows in order. -/
def orderTokens (o : RecordOrder) : List Token :=
  [.ORDER, .BY] ++ keyTokens o.direction o.field ++
    [.column .sequenceNumber, directionToken o.direction]

theorem readAs_orderClause (o : RecordOrder) (n : Nat) : ReadAs (orderClause o) n (orderTokens o) := by
  obtain ⟨f, d⟩ := o
  cases f <;> cases d <;>
    exact readAs_text (by decide +kernel) (by decide +kernel) (by decide +kernel) n

/-- **The clause that selects rows.** -/
theorem readAs_whereClause (f : Filter) (n : Nat) :
    ReadAs (whereClause f) n ([.WHERE, .TRUE] ++ conditionTokens n (conditions f)) := by
  have h1 : ReadAs [.text " WHERE TRUE"] n [.WHERE, .TRUE] :=
    readAs_text (by decide +kernel) (by decide +kernel) (by decide +kernel) n
  exact h1.append (readAs_conditions (conditions f) n)

theorem readAs_limits (limit offset : Value) (n : Nat) :
    ReadAs [.text " LIMIT ", .place limit, .text " OFFSET ", .place offset] n
      [.LIMIT, .place n, .OFFSET, .place (n + 1)] := by
  have hlimit : Ends " LIMIT " [.LIMIT] := by decide +kernel
  have hoffset : Ends " OFFSET " [.OFFSET] := by decide +kernel
  constructor
  · rw [Statement.toList_textFrom_text]
    exact Or.inr rfl
  · intro rest hr
    simp only [Statement.toList_textFrom_text, Statement.toList_textFrom_place,
      Statement.toList_textFrom_nil, List.append_assoc, List.nil_append]
    rw [tokensFrom_ends hlimit, tokensFrom_placeLetters, tokensFrom_ends hoffset,
      endedToken_placeLetters, tokensFrom_placeLetters, tokensFrom_continues hr,
      endedToken_placeLetters]
    rfl

/-! ## Statements -/

/-- Names of columns with commas between them. -/
def columnTokens (columns : List Column) : List Token :=
  (columns.map Token.column).intersperse .COMMA

theorem tokensFrom_columnList (columns : List Column) {rest : List Char} (hr : Continues rest) :
    tokensFrom (.word []) ((columnList columns).toList ++ rest) =
      columnTokens columns ++ tokensFrom (.word []) rest := by
  have hcomma : Ends ", " [.COMMA] := by decide +kernel
  induction columns with
  | nil => rfl
  | cons c cs ih =>
    cases cs with
    | nil =>
      have h : columnList [c] = c.name := String.intercalate_singleton
      rw [h, tokensFrom_name, tokensFrom_continues hr, (endedToken_name c).2]
      rfl
    | cons d ds =>
      have h : columnList (c :: d :: ds) = c.name ++ ", " ++ columnList (d :: ds) :=
        String.intercalate_cons_cons
      rw [h, String.toList_append, String.toList_append, List.append_assoc, List.append_assoc,
        tokensFrom_name, tokensFrom_ends hcomma, ih, (endedToken_name c).2]
      rfl

/-- The tokens in front of the clauses of a selection of records. -/
def selectionTokens : List Token :=
  .SELECT :: (columnTokens selectedColumns ++ [.FROM, .RECORDS])

/-- The tokens in front of the clauses of a count. -/
def countingTokens : List Token := [.SELECT, .COUNT, .OPEN, .STAR, .CLOSE, .FROM, .RECORDS]

theorem tokens_selection {s : Statement} {ts : List Token} (h : ReadAs s 1 ts) :
    tokens (Statement.text (selection :: s)) = selectionTokens ++ ts := by
  have hselect : ∀ rest,
      tokensFrom (.word []) ("SELECT ".toList ++ rest) = .SELECT :: tokensFrom (.word []) rest := by
    intro rest
    have h : readChars (.word []) "SELECT ".toList = ([.word "SELECT"], .word []) := by
      decide +kernel
    rw [tokensFrom, lexemesFrom_append, h]
    rfl
  have hfrom : ReadAs [.text " FROM audit_records"] 1 [.FROM, .RECORDS] :=
    readAs_text (by decide +kernel) (by decide +kernel) (by decide +kernel) 1
  have hclauses : ReadAs (.text " FROM audit_records" :: s) 1 ([.FROM, .RECORDS] ++ ts) :=
    hfrom.append h
  have hletters : (Statement.text (selection :: s)).toList = "SELECT ".toList ++
      ((columnList selectedColumns).toList ++
        (textFrom 1 (.text " FROM audit_records" :: s)).toList) := by
    simp only [Statement.text, selection, Statement.toList_textFrom_text, String.toList_append,
      List.append_assoc]
  have hrest := hclauses.tokens_eq
  rw [tokens] at hrest
  rw [tokens, hletters, hselect, tokensFrom_columnList _ hclauses.begins, hrest,
    ← List.append_assoc]
  rfl

theorem tokens_counted {s : Statement} {ts : List Token} (h : ReadAs s 1 ts) :
    tokens (Statement.text (.text "SELECT COUNT(*) FROM audit_records" :: s)) =
      countingTokens ++ ts := by
  have hcount : tokens "SELECT COUNT(*) FROM audit_records" = countingTokens := by decide +kernel
  rw [tokens, Statement.text, Statement.toList_textFrom_text,
    tokensFrom_append (by decide +kernel) h.begins, ← hcount, ← h.tokens_eq]
  rfl

/-- The number of values that a filter binds. -/
def boundBy (f : Filter) : Nat := (values (whereClause f)).length

theorem tokens_pageSelection (f : Filter) (o : RecordOrder) (limit offset : Int) :
    tokens (pageSelection f o limit offset).text =
      selectionTokens ++ ([.WHERE, .TRUE] ++ conditionTokens 1 (conditions f) ++ orderTokens o ++
        [.LIMIT, .place (1 + boundBy f), .OFFSET, .place (1 + boundBy f + 1)]) := by
  have h1 := ((readAs_whereClause f 1).append (readAs_orderClause o _)).append
    (readAs_limits (.int limit) (.int offset) _)
  have h2 : (values (whereClause f ++ orderClause o)).length = boundBy f := by
    rw [Statement.values_append]
    exact congrArg _ (List.append_nil _)
  rw [h2] at h1
  exact tokens_selection h1

theorem tokens_counting (f : Filter) :
    tokens (counting f).text =
      countingTokens ++ ([.WHERE, .TRUE] ++ conditionTokens 1 (conditions f)) :=
  tokens_counted (readAs_whereClause f 1)

end EventLedger.Sql
