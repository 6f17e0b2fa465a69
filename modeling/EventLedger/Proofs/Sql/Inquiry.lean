import EventLedger.Proofs.Sql.Clauses

/-!
# What a statement asks for

A database understands a selection from its text and the values beside it: which columns it wants, on
which conditions, in which order and how many rows. Nothing else of the statement is looked at.

* `Inquiry`: what is asked;
* `valueAt`: the value that a place stands for;
* `readCondition`, `readConditions`, `readKeys`, `readLimits`: the clauses;
* `understood`: the whole statement;
* **`understood_pageSelection`**, `understood_counting`: the statements of a filter.
-/

namespace EventLedger.Sql

open Statement (values)

/-! ## Inquiries -/

/-- What the rows of an answer hold. -/
inductive Wanted where
  | columns (columns : List Column)
  | count
  deriving DecidableEq

/-- A column that rows are put in order by. -/
structure Key where
  column : Column
  /-- Texts are compared byte by byte, and not as the language of the database has it. -/
  bytewise : Bool
  direction : Direction
  deriving DecidableEq

/-- What a selection asks for. -/
structure Inquiry where
  wanted : Wanted
  conditions : List Condition
  keys : List Key
  /-- The most rows, and those left out in front of them. -/
  limits : Option (Int × Int)

/-! ## Reading -/

section Reading

/-- The value bound to a place. -/
def valueAt (vs : List Value) : Nat → Option Value
  | 0 => none
  | n + 1 => vs[n]?

/-- The text bound to a place. -/
def textAt (vs : List Value) (n : Nat) : Option String := (valueAt vs n).bind Value.text?

/-- The texts bound to a place. -/
def textsAt (vs : List Value) (n : Nat) : Option (List String) :=
  match valueAt vs n with
  | some (.texts ts) => some ts
  | _ => none

/-- The time bound to a place. -/
def timestampAt (vs : List Value) (n : Nat) : Option Int :=
  match valueAt vs n with
  | some (.timestamp t) => some t
  | _ => none

/-- The number bound to a place. -/
def intAt (vs : List Value) (n : Nat) : Option Int := (valueAt vs n).bind Value.int?

variable (vs : List Value)

/-- A comparison of a column, and what is behind it. -/
def readComparison (c : Column) : List Token → Option (Condition × List Token)
  | .EQUALS :: .ANY :: .OPEN :: .place n :: .CLOSE :: rest =>
    (textsAt vs n).map fun ts => (.oneOf c ts, rest)
  | .EQUALS :: .place n :: rest => (textAt vs n).map fun t => (.equals c t, rest)
  | .LIKE :: .place n :: rest => (textAt vs n).map fun p => (.like c p, rest)
  | .ATLEAST :: .place n :: rest => (timestampAt vs n).map fun t => (.atLeast c t, rest)
  | .ATMOST :: .place n :: rest => (timestampAt vs n).map fun t => (.atMost c t, rest)
  | _ => none

/-- The end of a search for the values in two places, and what is behind it. -/
def readSearchEnd (l m : Nat) : List Token → Option (Condition × List Token)
  | .place n :: .CLOSE :: .CLOSE :: rest => do
    let p ← textAt vs l
    if textAt vs m = some p ∧ textAt vs n = some p then some (.mentions p, rest) else none
  | _ => none

/-- A search, and what is behind it. The same text has to be looked for in all three places. -/
def readSearch : List Token → Option (Condition × List Token)
  | .column .description :: .ILIKE :: .place l :: .OR :: .column .reason :: .ILIKE :: .place m ::
      rest =>
    if leafSearch.isPrefixOf rest then readSearchEnd vs l m (rest.drop leafSearch.length) else none
  | _ => none

/-- A condition, and what is behind it. -/
def readCondition : List Token → Option (Condition × List Token)
  | .column c :: rest => readComparison vs c rest
  | .OPEN :: rest => readSearch vs rest
  | _ => none

theorem length_of_readComparison {c : Column} {ts rest : List Token} {cond : Condition}
    (h : readComparison vs c ts = some (cond, rest)) : rest.length ≤ ts.length := by
  unfold readComparison at h
  split at h <;> simp only [Option.map_eq_some_iff, Prod.mk.injEq, reduceCtorEq] at h
  all_goals
    obtain ⟨-, -, -, rfl⟩ := h
    simp only [List.length_cons]
    omega

theorem length_of_readSearch {ts rest : List Token} {cond : Condition}
    (h : readSearch vs ts = some (cond, rest)) : rest.length ≤ ts.length := by
  unfold readSearch at h
  split at h
  · split at h
    · rename_i l m behind hprefix
      unfold readSearchEnd at h
      split at h
      · rename_i hdrop
        have hlength := congrArg List.length hdrop
        simp only [List.length_drop, List.length_cons] at hlength
        simp only [Option.bind_eq_bind, Option.bind_eq_some_iff, Option.ite_none_right_eq_some,
          Option.some.injEq, Prod.mk.injEq] at h
        obtain ⟨-, -, -, -, rfl⟩ := h
        simp
        omega
      · simp at h
    · simp at h
  · simp at h

theorem length_of_readCondition {ts rest : List Token} {cond : Condition}
    (h : readCondition vs ts = some (cond, rest)) : rest.length < ts.length := by
  unfold readCondition at h
  split at h
  · exact Nat.lt_succ_of_le (length_of_readComparison vs h)
  · exact Nat.lt_succ_of_le (length_of_readSearch vs h)
  · cases h

/-- Conditions, each behind an `AND`, and what is behind them. -/
def readConditions : List Token → Option (List Condition × List Token)
  | .AND :: ts =>
    match h : readCondition vs ts with
    | some (c, rest) =>
      have : rest.length < ts.length := length_of_readCondition vs h
      (readConditions rest).map fun (cs, last) => (c :: cs, last)
    | none => none
  | ts => some ([], ts)
  termination_by ts => ts.length

/-- The direction that a token names. -/
def direction? : Token → Option Direction
  | .ASC => some .ascending
  | .DESC => some .descending
  | _ => none

/-- A key, and what is behind it. -/
def readKey : List Token → Option (Key × List Token)
  | .column c :: .COLLATE :: .BYTES :: d :: rest =>
    (direction? d).map fun d => (⟨c, true, d⟩, rest)
  | .column c :: d :: rest => (direction? d).map fun d => (⟨c, false, d⟩, rest)
  | _ => none

theorem length_of_readKey {ts rest : List Token} {k : Key} (h : readKey ts = some (k, rest)) :
    rest.length < ts.length := by
  unfold readKey at h
  split at h <;> simp only [Option.map_eq_some_iff, Prod.mk.injEq, reduceCtorEq] at h
  all_goals
    obtain ⟨-, -, -, rfl⟩ := h
    simp only [List.length_cons]
    omega

/-- Keys with commas between them, and what is behind them. -/
def readKeys (ts : List Token) : Option (List Key × List Token) :=
  match h : readKey ts with
  | some (k, .COMMA :: rest) =>
    have : rest.length < ts.length := Nat.lt_of_succ_lt (length_of_readKey h)
    (readKeys rest).map fun (ks, last) => (k :: ks, last)
  | some (k, rest) => some ([k], rest)
  | none => none
  termination_by ts.length

/-- The order of the rows if one is given, and what is behind it. -/
def readOrder : List Token → Option (List Key × List Token)
  | .ORDER :: .BY :: ts => readKeys ts
  | ts => some ([], ts)

/-- How many rows are asked for, at the end of a statement. -/
def readLimits : List Token → Option (Option (Int × Int))
  | [] => some none
  | [.LIMIT, .place m, .OFFSET, .place n] => do
    let limit ← intAt vs m
    let offset ← intAt vs n
    some (some (limit, offset))
  | _ => none

/-- More columns, and what is behind them. -/
def readColumns : List Token → List Column × List Token
  | .COMMA :: .column c :: ts => ((c :: (readColumns ts).1), (readColumns ts).2)
  | ts => ([], ts)

/-- What the rows are to hold, and what is behind it. -/
def readWanted : List Token → Option (Wanted × List Token)
  | .SELECT :: .COUNT :: .OPEN :: .STAR :: .CLOSE :: ts => some (.count, ts)
  | .SELECT :: .column c :: ts => some (.columns (c :: (readColumns ts).1), (readColumns ts).2)
  | _ => none

/-- The inquiry of the tokens of a statement. -/
def readInquiry (ts : List Token) : Option Inquiry := do
  let (wanted, ts) ← readWanted ts
  let .FROM :: .RECORDS :: .WHERE :: .TRUE :: ts := ts | none
  let (conditions, ts) ← readConditions vs ts
  let (keys, ts) ← readOrder ts
  let limits ← readLimits vs ts
  some ⟨wanted, conditions, keys, limits⟩

end Reading

/-- **What a database understands** from the text of a statement and the values beside it. -/
def understood (text : String) (vs : List Value) : Option Inquiry := readInquiry vs (tokens text)

/-! ## The places of values -/

/-- These values are bound in a row, the first one to place `n`. -/
def BoundAt (vs : List Value) (n : Nat) (us : List Value) : Prop :=
  ∃ before behind, vs = before ++ (us ++ behind) ∧ n = before.length + 1

section Places

variable {vs us ws : List Value} {v : Value} {n : Nat}

theorem boundAt_self (vs : List Value) : BoundAt vs 1 vs := ⟨[], [], by simp, rfl⟩

theorem BoundAt.left (h : BoundAt vs n (us ++ ws)) : BoundAt vs n us := by
  obtain ⟨before, behind, rfl, rfl⟩ := h
  exact ⟨before, ws ++ behind, by simp, rfl⟩

theorem BoundAt.right (h : BoundAt vs n (us ++ ws)) : BoundAt vs (n + us.length) ws := by
  obtain ⟨before, behind, rfl, rfl⟩ := h
  exact ⟨before ++ us, behind, by simp, by simp; omega⟩

theorem BoundAt.head (h : BoundAt vs n (v :: us)) : valueAt vs n = some v := by
  obtain ⟨before, behind, rfl, rfl⟩ := h
  simp [valueAt]

theorem BoundAt.tail (h : BoundAt vs n (v :: us)) : BoundAt vs (n + 1) us := by
  have h1 : BoundAt vs n ([v] ++ us) := h
  exact h1.right

end Places

/-! ## The conditions of a filter -/

section Conditions

variable {vs : List Value} {n : Nat}

theorem readSearch_tokens {p : String} (h : BoundAt vs n [.text p, .text p, .text p])
    (rest : List Token) :
    readCondition vs ((Condition.mentions p).tokensFrom n ++ rest) = some (.mentions p, rest) := by
  have h0 : textAt vs n = some p := by simp [textAt, h.head, Value.text?]
  have h1 : textAt vs (n + 1) = some p := by simp [textAt, h.tail.head, Value.text?]
  have h2 : textAt vs (n + 2) = some p := by simp [textAt, h.tail.tail.head, Value.text?]
  have hdrop : ∀ ts, (leafSearch ++ ts).drop leafSearch.length = ts := fun ts => List.drop_left
  have hsearch : readSearch vs (((Condition.mentions p).tokensFrom n).tail ++ rest) =
      readSearchEnd vs n (n + 1) (.place (n + 2) :: .CLOSE :: .CLOSE :: rest) := by
    simp [readSearch, Condition.tokensFrom, hdrop]
  have hend : readSearchEnd vs n (n + 1) (.place (n + 2) :: .CLOSE :: .CLOSE :: rest) =
      some (.mentions p, rest) := by
    simp [readSearchEnd, h0, h1, h2]
  exact hsearch.trans hend

/-- **A condition is found again** if its values are bound to its places. -/
theorem readCondition_tokens (c : Condition) (h : BoundAt vs n (values c.pieces))
    (rest : List Token) : readCondition vs (c.tokensFrom n ++ rest) = some (c, rest) := by
  cases c with
  | oneOf c ts => simp [Condition.tokensFrom, readCondition, readComparison, textsAt, h.head]
  | equals c t =>
    simp [Condition.tokensFrom, readCondition, readComparison, textAt, h.head, Value.text?]
  | like c p =>
    simp [Condition.tokensFrom, readCondition, readComparison, textAt, h.head, Value.text?]
  | atLeast c t => simp [Condition.tokensFrom, readCondition, readComparison, timestampAt, h.head]
  | atMost c t => simp [Condition.tokensFrom, readCondition, readComparison, timestampAt, h.head]
  | mentions p => exact readSearch_tokens h rest

theorem readConditions_tokens (cs : List Condition)
    (h : BoundAt vs n (values (cs.flatMap fun c => .text " AND " :: c.pieces))) (rest : List Token)
    (hr : rest.head? ≠ some .AND) :
    readConditions vs (conditionTokens n cs ++ rest) = some (cs, rest) := by
  induction cs generalizing n with
  | nil =>
    cases rest with
    | nil => simp [conditionTokens, readConditions]
    | cons t ts =>
      have : t ≠ .AND := fun he => hr (by simp [he])
      rw [conditionTokens, List.nil_append, readConditions]
      exact fun _ he => this (List.cons.inj he).1
  | cons c cs ih =>
    rw [List.flatMap_cons, Statement.values_append] at h
    have hc := readCondition_tokens c h.left (conditionTokens (n + (values c.pieces).length) cs ++ rest)
    rw [conditionTokens, List.cons_append, List.cons_append, List.append_assoc, readConditions]
    split
    · rename_i c' rest' he
      obtain ⟨rfl, rfl⟩ := Prod.mk.inj (Option.some.inj (hc.symm.trans he))
      have hcs := ih h.right
      rw [Statement.values_text] at hcs
      simp [hcs]
    · rename_i he
      exact absurd (hc.symm.trans he) nofun

end Conditions

/-! ## Orders and limits -/

/-- The columns that rows are put in order by. -/
def orderKeys (o : RecordOrder) : List Key :=
  (match o.field with
    | .timestamp => [⟨.occurredAt, false, o.direction⟩]
    | .eventType => [⟨.eventType, true, o.direction⟩]
    | .sequenceNumber => []) ++ [⟨.sequenceNumber, false, o.direction⟩]

theorem readKeys_end {ts rest : List Token} {k : Key} (h : readKey ts = some (k, rest))
    (hr : rest.head? ≠ some .COMMA) : readKeys ts = some ([k], rest) := by
  rw [readKeys]
  split
  · rename_i k' rest' he
    obtain ⟨-, rfl⟩ := Prod.mk.inj (Option.some.inj (h.symm.trans he))
    exact absurd rfl hr
  · rename_i k' rest' _ he
    obtain ⟨rfl, rfl⟩ := Prod.mk.inj (Option.some.inj (h.symm.trans he))
    rfl
  · rename_i he
    exact absurd (h.symm.trans he) nofun

theorem readKeys_last (d : Direction) {rest : List Token} (hr : rest.head? ≠ some .COMMA) :
    readKeys (.column .sequenceNumber :: directionToken d :: rest) =
      some ([⟨.sequenceNumber, false, d⟩], rest) := by
  have hkey : readKey (.column .sequenceNumber :: directionToken d :: rest) =
      some (⟨.sequenceNumber, false, d⟩, rest) := by
    cases d <;> rfl
  exact readKeys_end hkey hr

theorem readKeys_cons {ts rest : List Token} {k : Key} (h : readKey ts = some (k, .COMMA :: rest)) :
    readKeys ts = (readKeys rest).map fun (ks, last) => (k :: ks, last) := by
  rw [readKeys]
  split
  · rename_i k' rest' he
    obtain ⟨rfl, hrest⟩ := Prod.mk.inj (Option.some.inj (h.symm.trans he))
    cases hrest
    rfl
  · rename_i k' rest' hne he
    obtain ⟨rfl, rfl⟩ := Prod.mk.inj (Option.some.inj (h.symm.trans he))
    exact (hne _ rfl).elim
  · rename_i he
    exact absurd (h.symm.trans he) nofun

theorem readOrder_tokens (o : RecordOrder) (rest : List Token) (hr : rest.head? ≠ some .COMMA) :
    readOrder (orderTokens o ++ rest) = some (orderKeys o, rest) := by
  obtain ⟨f, d⟩ := o
  have hlast := readKeys_last d hr
  cases f with
  | sequenceNumber => exact hlast
  | timestamp =>
    have hkey : readKey (keyTokens d .timestamp ++
        (.column .sequenceNumber :: directionToken d :: rest)) =
        some (⟨.occurredAt, false, d⟩,
          .COMMA :: .column .sequenceNumber :: directionToken d :: rest) := by
      cases d <;> rfl
    exact (readKeys_cons hkey).trans (by rw [hlast]; rfl)
  | eventType =>
    have hkey : readKey (keyTokens d .eventType ++
        (.column .sequenceNumber :: directionToken d :: rest)) =
        some (⟨.eventType, true, d⟩,
          .COMMA :: .column .sequenceNumber :: directionToken d :: rest) := by
      cases d <;> rfl
    exact (readKeys_cons hkey).trans (by rw [hlast]; rfl)

theorem readWanted_selection (rest : List Token) :
    readWanted (selectionTokens ++ rest) =
      some (.columns selectedColumns, .FROM :: .RECORDS :: rest) := rfl

/-! ## The statements of a filter -/

theorem values_pageSelection (f : Filter) (o : RecordOrder) (limit offset : Int) :
    (pageSelection f o limit offset).values =
      values (whereClause f) ++ [.int limit, .int offset] := by
  have h : (pageSelection f o limit offset).values =
    values (whereClause f ++ orderClause o ++
      [.text " LIMIT ", .place (.int limit), .text " OFFSET ", .place (.int offset)]) := rfl
  rw [h, Statement.values_append, Statement.values_append]
  exact congrArg (· ++ _) (List.append_nil _)

/-- **The selection of a page is understood** as the conditions of the filter, the keys of the order and
the limits, each with the value that was bound for it. -/
theorem understood_pageSelection (f : Filter) (o : RecordOrder) (limit offset : Int) :
    understood (pageSelection f o limit offset).text (pageSelection f o limit offset).values =
      some ⟨.columns selectedColumns, conditions f, orderKeys o, some (limit, offset)⟩ := by
  have hbound : BoundAt (values (whereClause f) ++ [.int limit, .int offset]) 1
    (values (whereClause f) ++ [.int limit, .int offset]) := boundAt_self _
  have hlimits := hbound.right
  have hlimit : intAt (values (whereClause f) ++ [.int limit, .int offset]) (1 + boundBy f) =
      some limit := by
    simp [intAt, boundBy, hlimits.head, Value.int?]
  have hoffset : intAt (values (whereClause f) ++ [.int limit, .int offset]) (1 + boundBy f + 1) =
      some offset := by
    simp [intAt, boundBy, hlimits.tail.head, Value.int?]
  have hconditions := readConditions_tokens (conditions f) hbound.left
    (orderTokens o ++ [.LIMIT, .place (1 + boundBy f), .OFFSET, .place (1 + boundBy f + 1)])
    nofun
  have horder := readOrder_tokens o
    [.LIMIT, .place (1 + boundBy f), .OFFSET, .place (1 + boundBy f + 1)] nofun
  rw [understood, tokens_pageSelection, values_pageSelection, readInquiry, readWanted_selection]
  simp only [List.append_assoc, List.cons_append, List.nil_append, Option.bind_eq_bind,
    Option.bind_some]
  rw [hconditions, Option.bind_some, horder, Option.bind_some]
  simp [readLimits, hlimit, hoffset]

theorem understood_counting (f : Filter) :
    understood (counting f).text (counting f).values =
      some ⟨.count, conditions f, [], none⟩ := by
  have hconditions := readConditions_tokens (conditions f) (boundAt_self (counting f).values) [] nofun
  rw [List.append_nil] at hconditions
  rw [understood, tokens_counting, readInquiry]
  simp [countingTokens, readWanted, hconditions, readOrder, readLimits]

end EventLedger.Sql
