import EventLedger.Proofs.Sql.Inquiry

/-!
# Values stay beside the text

The text of a statement depends only on which conditions a filter sets. Every place occurs in it once,
in the order of the bound values, and each value belongs to the condition at its place.

* `placesIn`, `Binds`: a statement and what it asks for;
* `Statement.holes`, `textFrom_congr`: the text without the values;
* `unset`, `unbound_conditions`: which conditions are set;
* **`filter_stays_beside_text`**.
-/

namespace EventLedger.Sql

open Statement (values textFrom)

/-! ## Places -/

/-- The number of a place. -/
def Token.place? : Token → Option Nat
  | .place n => some n
  | _ => none

/-- The numbers of the places in the order in which they occur. -/
def placesIn (ts : List Token) : List Nat := ts.filterMap Token.place?

theorem placesIn_append (ts us : List Token) : placesIn (ts ++ us) = placesIn ts ++ placesIn us :=
  List.filterMap_append

theorem placesIn_condition (c : Condition) (n : Nat) :
    placesIn (c.tokensFrom n) = List.range' n (values c.pieces).length := by
  cases c <;> rfl

theorem placesIn_conditionTokens (cs : List Condition) (n : Nat) :
    placesIn (conditionTokens n cs) =
      List.range' n (values (cs.flatMap fun c => .text " AND " :: c.pieces)).length := by
  induction cs generalizing n with
  | nil => rfl
  | cons c cs ih =>
    have h : placesIn (conditionTokens n (c :: cs)) = placesIn (c.tokensFrom n) ++
        placesIn (conditionTokens (n + (values c.pieces).length) cs) := placesIn_append _ _
    rw [h, placesIn_condition, ih, List.flatMap_cons, Statement.values_append, List.length_append,
      Statement.values_text, List.range'_append_1]

theorem placesIn_orderTokens (o : RecordOrder) : placesIn (orderTokens o) = [] := by
  obtain ⟨f, d⟩ := o
  cases f <;> cases d <;> rfl

/-- The places of a statement are numbered as the values are bound, and this is what it asks for. -/
structure Binds (s : Statement) (q : Inquiry) : Prop where
  places : placesIn (tokens s.text) = List.range' 1 s.values.length
  asks : understood s.text s.values = some q

theorem binds_pageSelection (f : Filter) (o : RecordOrder) (limit offset : Int) :
    Binds (pageSelection f o limit offset)
      ⟨.columns selectedColumns, conditions f, orderKeys o, some (limit, offset)⟩ where
  places := by
    have hselection : placesIn selectionTokens = [] := by decide
    have hlimits : ∀ n, placesIn [.LIMIT, .place n, .OFFSET, .place (n + 1)] = List.range' n 2 :=
      fun n => rfl
    have hwhere : placesIn [.WHERE, .TRUE] = [] := rfl
    rw [tokens_pageSelection, values_pageSelection, List.length_append]
    simp only [placesIn_append, hselection, hwhere, placesIn_orderTokens, placesIn_conditionTokens,
      hlimits, List.nil_append, List.append_nil]
    exact List.range'_append_1
  asks := understood_pageSelection f o limit offset

theorem binds_counting (f : Filter) : Binds (counting f) ⟨.count, conditions f, [], none⟩ where
  places := by
    have hcounting : placesIn countingTokens = [] := rfl
    have hwhere : placesIn [.WHERE, .TRUE] = [] := rfl
    rw [tokens_counting]
    simp only [placesIn_append, hcounting, hwhere, placesIn_conditionTokens, List.nil_append]
    rfl
  asks := understood_counting f

/-! ## The text without the values -/

/-- The texts of a statement, with nothing where a place is. -/
def Statement.holes (s : Statement) : List (Option String) :=
  s.map fun
    | .text t => some t
    | .place _ => none

theorem textFrom_congr {s t : Statement} (h : s.holes = t.holes) (n : Nat) :
    textFrom n s = textFrom n t := by
  induction s generalizing t n with
  | nil => rw [List.map_eq_nil_iff.mp h.symm]
  | cons p s ih =>
    cases t with
    | nil => exact absurd h nofun
    | cons q t =>
      obtain ⟨hp, hs⟩ := List.cons.inj h
      cases p <;> cases q <;> simp only [Option.some.injEq, reduceCtorEq] at hp <;>
        simp [textFrom, ih hs, hp]

/-- The condition with nothing in its place. -/
def Condition.unbound : Condition → Condition
  | .oneOf c _ => .oneOf c []
  | .equals c _ => .equals c ""
  | .like c _ => .like c ""
  | .atLeast c _ => .atLeast c 0
  | .atMost c _ => .atMost c 0
  | .mentions _ => .mentions ""

theorem holes_unbound (c : Condition) :
    Statement.holes c.unbound.pieces = Statement.holes c.pieces := by
  cases c <;> rfl

/-- Which conditions a filter does not set. -/
def unset (f : Filter) : List Bool := [
  f.eventTypes.isEmpty, f.category.isNone, f.actorKinds.isEmpty, f.actorIds.isEmpty,
  f.resourceTypes.isEmpty, f.resourceIds.isEmpty, f.correlationId.isNone, f.causationId.isNone,
  f.dateFrom.isNone, f.dateTo.isNone, f.sourceServices.isEmpty, f.search.isNone]

/-- The conditions that a filter may set, with nothing in their places. -/
def unboundConditions : List Condition := [
  .oneOf .eventType [], .like .category "", .oneOf .actorType [], .oneOf .actorId [],
  .oneOf .resourceType [], .oneOf .resourceId [], .equals .correlationId "", .equals .causationId "",
  .atLeast .occurredAt 0, .atMost .occurredAt 0, .oneOf .sourceService [], .mentions ""]

/-- A condition where it is set. -/
def unlessUnset (isUnset : Bool) (c : Condition) : Option Condition := if isUnset then none else some c

theorem unbound_oneOf? (c : Column) (ts : List String) :
    (oneOf? c ts).map Condition.unbound = unlessUnset ts.isEmpty (.oneOf c []) := by
  unfold oneOf? unlessUnset
  split <;> rfl

theorem map_const {α : Type} (c : Condition) (a : Option α) :
    a.map (fun _ => c) = unlessUnset a.isNone c := by
  cases a <;> rfl

/-- **But for their values, the conditions are those that are set.** -/
theorem unbound_conditions (f : Filter) :
    (conditions f).map Condition.unbound =
      (List.zipWith unlessUnset (unset f) unboundConditions).filterMap id := by
  have h : (possibleConditions f).map (Option.map Condition.unbound) =
      List.zipWith unlessUnset (unset f) unboundConditions := by
    simp only [possibleConditions, List.map_cons, List.map_nil, unbound_oneOf?, Option.map_map,
      Function.comp_def, Condition.unbound, map_const, unset, unboundConditions, List.zipWith,
      List.isEmpty_map]
  rw [← h, conditions, List.map_filterMap, List.filterMap_map]
  rfl

theorem holes_whereClause (f : Filter) :
    Statement.holes (whereClause f) = some " WHERE TRUE" ::
      ((conditions f).map Condition.unbound).flatMap fun c =>
        some " AND " :: Statement.holes c.pieces := by
  have h : Statement.holes (whereClause f) = some " WHERE TRUE" ::
      (conditions f).flatMap fun c => some " AND " :: Statement.holes c.pieces := by
    simp [Statement.holes, whereClause, List.map_flatMap]
  rw [h, List.flatMap_map]
  simp only [holes_unbound]

theorem holes_whereClause_congr {f g : Filter} (h : unset g = unset f) :
    Statement.holes (whereClause g) = Statement.holes (whereClause f) := by
  rw [holes_whereClause, holes_whereClause, unbound_conditions, unbound_conditions, h]

theorem text_pageSelection_congr {f g : Filter} (h : unset g = unset f) (o : RecordOrder)
    (limit offset limit' offset' : Int) :
    (pageSelection g o limit' offset').text = (pageSelection f o limit offset).text := by
  refine textFrom_congr ?_ 1
  have hwhere := holes_whereClause_congr h
  simp only [Statement.holes] at hwhere
  simp [Statement.holes, pageSelection, hwhere]

theorem text_counting_congr {f g : Filter} (h : unset g = unset f) :
    (counting g).text = (counting f).text := by
  have hholes : Statement.holes (counting g) = Statement.holes (counting f) :=
    congrArg (some "SELECT COUNT(*) FROM audit_records" :: ·) (holes_whereClause_congr h)
  exact textFrom_congr hholes 1

/-! ## Filters -/

/-- **What a filter holds stays beside the text.** The text of a page and that of a count have the
places `$1` to `$n` once each and in this order, where `n` values are bound; read with these values,
they ask for the conditions of the filter, in the given order and within the limits, each condition
with its own value. The text is the same for all filters that set the same conditions, whatever texts,
times and limits they hold. -/
theorem filter_stays_beside_text (f : Filter) (o : RecordOrder) (limit offset : Int) :
    Binds (pageSelection f o limit offset)
      ⟨.columns selectedColumns, conditions f, orderKeys o, some (limit, offset)⟩ ∧
    Binds (counting f) ⟨.count, conditions f, [], none⟩ ∧
    ∀ g : Filter, unset g = unset f →
      (counting g).text = (counting f).text ∧
      ∀ limit' offset' : Int,
        (pageSelection g o limit' offset').text = (pageSelection f o limit offset).text :=
  ⟨binds_pageSelection f o limit offset, binds_counting f, fun _ h =>
    ⟨text_counting_congr h, text_pageSelection_congr h o limit offset⟩⟩

/-- An actor whose name closes a quote is looked for by the same text as any other. -/
theorem quoting_actor_stays_beside_text :
    let f : Filter := { actorIds := ["admin-3"], search := some "chargeback" }
    let g : Filter := { actorIds := ["x') OR TRUE --", "$1"], search := some "%' OR '1'='1" }
    unset g = unset f ∧ (counting g).text = (counting f).text ∧
      (pageSelection g .recent 1 0).text = (pageSelection f .recent 20 40).text ∧
      Binds (pageSelection g .recent 1 0) ⟨.columns selectedColumns, [
        .oneOf .actorId ["x') OR TRUE --", "$1"], .mentions "%\\%' OR '1'='1%"],
        orderKeys .recent, some (1, 0)⟩ := by
  intro f g
  have hset : unset g = unset f := rfl
  obtain ⟨-, -, hsame⟩ := filter_stays_beside_text f .recent 20 40
  obtain ⟨hcount, hpage⟩ := hsame g hset
  refine ⟨hset, hcount, hpage 1 0, ?_⟩
  have hconditions : conditions g = [
      .oneOf .actorId ["x') OR TRUE --", "$1"], .mentions "%\\%' OR '1'='1%"] := by
    have hpattern : Pattern.partPattern "%' OR '1'='1" = "%\\%' OR '1'='1%" := by decide +kernel
    rw [← hpattern]
    rfl
  exact hconditions ▸ (filter_stays_beside_text g .recent 1 0).1

end EventLedger.Sql
