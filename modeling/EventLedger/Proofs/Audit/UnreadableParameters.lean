import EventLedger.Proofs.Audit.WrittenSearch

/-!
# Parameters that cannot be read

Seven parameters are read as values: kinds of actors, of which there may be several, two instants, a field
and a direction to sort by, and the number and the size of a page. Each text among them either names a
value or is told of, whatever the other parameters are.

* `ValueParameter`, `ValueParameter.Names`: these parameters, and the texts that name a value;
* `ValueParameter.violation?`, `violation?_eq_none_iff`: what is told of a text on its own;
* `QueryParams.SaysTexts`, `saysTexts_iff`: the texts that a parameter says;
* **`QueryParams.faults_eq`**, `QueryParams.faults_only`, `QueryParams.filter_faults`: all parameters,
  and one alone;
* **`unreadable_parameters_reported`**.
-/

namespace EventLedger

/-! ## Texts on their own -/

/-- What is wrong with a text that could not be read. -/
def problemOf {α : Type} : Except String α → Option String
  | .ok _ => none
  | .error problem => some problem

theorem problemOf_eq_none_iff {α : Type} {x : Except String α} :
    problemOf x = none ↔ ∃ a, x = .ok a := by
  cases x with
  | ok a => exact iff_of_true rfl ⟨a, rfl⟩
  | error problem => exact iff_of_false nofun nofun

/-- The parameters of a search that are read as values. -/
inductive ValueParameter where
  | actorTypes
  | dateFrom
  | dateTo
  | sortBy
  | sortOrder
  | page
  | pageSize
  deriving DecidableEq

namespace ValueParameter

/-- All of them, in the order of a report. -/
def all : List ValueParameter := [actorTypes, dateFrom, dateTo, sortBy, sortOrder, page, pageSize]

/-- The name of a parameter. -/
def name : ValueParameter → String
  | actorTypes => "actorTypes"
  | dateFrom => "dateFrom"
  | dateTo => "dateTo"
  | sortBy => "sortBy"
  | sortOrder => "sortOrder"
  | page => "page"
  | pageSize => "pageSize"

/-- The text names a value. -/
def Names : ValueParameter → String → Prop
  | actorTypes, t => ∃ k : ActorKind, t = k.word
  | dateFrom, t | dateTo, t => ∃ d, Instant.read t = .ok d
  | sortBy, t => ∃ f : SortField, t = f.word
  | sortOrder, t => ∃ d : Direction, Text.lowerAscii t = d.word
  | page, t | pageSize, t => ∃ n : Nat, Text.Writes n t ∧ Text.u32.holds n = true

/-- What is wrong with a text, if it names no value. -/
def problem? : ValueParameter → String → Option String
  | actorTypes, t => problemOf (readActorKind t)
  | dateFrom, t | dateTo, t => problemOf (readInstant t)
  | sortBy, t => problemOf (SortField.read t)
  | sortOrder, t => problemOf (Direction.read t)
  | page, t | pageSize, t => problemOf (readCount t)

/-- What is told of a text, if it names no value. -/
def violation? (p : ValueParameter) (t : String) : Option Violation :=
  (p.problem? t).map fun problem => .single p.name (.unreadable t problem)

variable {p : ValueParameter} {t : String}

theorem mem_all (p : ValueParameter) : p ∈ all := by cases p <;> decide

theorem name_injective {p p' : ValueParameter} (h : p.name = p'.name) : p = p' := by
  revert h
  cases p <;> cases p' <;> decide

end ValueParameter

theorem readActorKind_eq_ok_iff {t : String} {k : ActorKind} :
    readActorKind t = .ok k ↔ t = k.word := by
  refine ⟨fun h => ?_, fun h => h ▸ readActorKind_word k⟩
  unfold readActorKind ActorKind.ofWord? at h
  split_ifs at h <;> cases h <;> assumption

theorem SortField.read_eq_ok_iff {t : String} {f : SortField} :
    SortField.read t = .ok f ↔ t = f.word := by
  refine ⟨fun h => ?_, fun h => h ▸ f.read_word⟩
  unfold SortField.read SortField.ofWord? at h
  split_ifs at h <;> cases h <;> assumption

theorem Direction.read_eq_ok_iff {t : String} {d : Direction} :
    Direction.read t = .ok d ↔ Text.lowerAscii t = d.word := by
  refine ⟨fun h => ?_, Direction.read_of_lowerAscii⟩
  unfold Direction.read Direction.ofWord? at h
  split_ifs at h <;> cases h <;> assumption

namespace ValueParameter

variable {p : ValueParameter} {t : String}

theorem problem?_eq_none_iff : p.problem? t = none ↔ p.Names t := by
  cases p with
  | actorTypes => simp only [problem?, Names, problemOf_eq_none_iff, readActorKind_eq_ok_iff]
  | dateFrom | dateTo => simp only [problem?, Names, problemOf_eq_none_iff, readInstant,
      mapError_eq_ok_iff]
  | sortBy => simp only [problem?, Names, problemOf_eq_none_iff, SortField.read_eq_ok_iff]
  | sortOrder => simp only [problem?, Names, problemOf_eq_none_iff, Direction.read_eq_ok_iff]
  | page | pageSize => simp only [problem?, Names, problemOf_eq_none_iff, readCount_eq_ok_iff]

/-- **A text that names no value is told of**, and no other. -/
theorem violation?_eq_none_iff : p.violation? t = none ↔ p.Names t := by
  rw [violation?, Option.map_eq_none_iff, problem?_eq_none_iff]

theorem quoted_of_violation? {v : Violation} (h : p.violation? t = some v) :
    v.index = none ∧ v.field = p.name ∧
      ∃ problem, p.problem? t = some problem ∧ v.fault.message = "'" ++ t ++ "': " ++ problem := by
  obtain ⟨problem, hproblem, rfl⟩ := Option.map_eq_some_iff.mp h
  exact ⟨rfl, rfl, problem, hproblem, rfl⟩

end ValueParameter

/-! ## The texts of a search -/

theorem Reading.violation?_ofText {α : Type} {field t : String} {read : String → Except String α} :
    (ofText field read t).violation? =
      (problemOf (read t)).map fun problem => .single field (.unreadable t problem) := by
  unfold ofText
  cases read t <;> rfl

theorem Reading.violation?_ofParam {α : Type} {field : String} {read : String → Except String α}
    {raw : Option String} :
    (ofParam field read raw).violation? = (raw.bind Text.nonBlank?).bind fun t =>
      (problemOf (read t)).map fun problem => .single field (.unreadable t problem) := by
  unfold ofParam
  cases raw.bind Text.nonBlank? with
  | none => rfl
  | some t => exact violation?_ofText

namespace QueryParams

variable (q : QueryParams) (p : ValueParameter)

/-- A parameter as it arrived. -/
def param : ValueParameter → Option String
  | .actorTypes => q.actorTypes
  | .dateFrom => q.dateFrom
  | .dateTo => q.dateTo
  | .sortBy => q.sortBy
  | .sortOrder => q.sortOrder
  | .page => q.page
  | .pageSize => q.pageSize

/-- A parameter says these texts, with white space around them: kinds of actors between commas, and of
the others one text or none. -/
def SaysTexts : ValueParameter → List String → Prop
  | .actorTypes, ts => SaysAll q.actorTypes ts ∧ ∀ t ∈ ts, Listable t
  | p, ts => ∃ t?, (Says (q.param p) t? ∧ ∀ t ∈ t?, Text.Neat t) ∧ t?.toList = ts

/-- The texts that are found in a parameter. -/
def texts : ValueParameter → List String
  | .actorTypes => splitSet q.actorTypes
  | p => ((q.param p).bind Text.nonBlank?).toList

/-- **What a parameter says is found in it**, and nothing else. -/
theorem saysTexts_iff (ts : List String) : q.SaysTexts p ts ↔ ts = q.texts p := by
  rw [@eq_comm _ ts]
  cases p with
  | actorTypes => exact splitSet_eq_iff.symm
  | dateFrom | dateTo | sortBy | sortOrder | page | pageSize =>
    unfold SaysTexts texts
    simp only [← bind_nonBlank?_eq_iff, exists_eq_left']

/-- What is told of a parameter. -/
def offences : List Violation := (q.texts p).filterMap p.violation?

theorem toList_violation?_ofParam {α : Type} {field : String} {read : String → Except String α}
    {raw : Option String} :
    (Reading.ofParam field read raw).violation?.toList =
      (raw.bind Text.nonBlank?).toList.filterMap fun t =>
        (problemOf (read t)).map fun problem => .single field (.unreadable t problem) := by
  rw [Reading.violation?_ofParam]
  cases raw.bind Text.nonBlank? with
  | none => rfl
  | some t =>
    rw [Option.bind_some, Option.toList_some, List.filterMap_cons]
    cases (problemOf (read t)).map fun problem => Violation.single field (.unreadable t problem) <;> rfl

/-- **Everything that cannot be read**, parameter by parameter. -/
theorem faults_eq : q.faults = ValueParameter.all.flatMap q.offences := by
  have hkinds : q.kinds.filterMap (·.violation?) = q.offences .actorTypes := by
    rw [kinds, List.filterMap_map]
    exact List.filterMap_congr fun t _ => Reading.violation?_ofText
  have hstart : q.start.violation?.toList = q.offences .dateFrom := toList_violation?_ofParam
  have hfinish : q.finish.violation?.toList = q.offences .dateTo := toList_violation?_ofParam
  have hfield : q.field.violation?.toList = q.offences .sortBy := toList_violation?_ofParam
  have hdirection : q.direction.violation?.toList = q.offences .sortOrder := toList_violation?_ofParam
  have hnumber : q.number.violation?.toList = q.offences .page := toList_violation?_ofParam
  have hsize : q.size.violation?.toList = q.offences .pageSize := toList_violation?_ofParam
  rw [faults, hkinds, List.filterMap_eq_flatMap_toList]
  simp only [ValueParameter.all, List.flatMap_cons, List.flatMap_nil, id_eq, hstart, hfinish, hfield,
    hdirection, hnumber, hsize]

theorem faults_eq_nil_iff : q.faults = [] ↔ ∀ p, ∀ t ∈ q.texts p, p.Names t := by
  simp only [faults_eq, List.flatMap_eq_nil_iff, offences, List.filterMap_eq_nil_iff,
    ValueParameter.violation?_eq_none_iff, ValueParameter.mem_all, true_imp_iff]

/-! ## A parameter alone -/

/-- A search of which only one parameter is left. -/
def only : ValueParameter → QueryParams
  | .actorTypes => { actorTypes := q.actorTypes }
  | .dateFrom => { dateFrom := q.dateFrom }
  | .dateTo => { dateTo := q.dateTo }
  | .sortBy => { sortBy := q.sortBy }
  | .sortOrder => { sortOrder := q.sortOrder }
  | .page => { page := q.page }
  | .pageSize => { pageSize := q.pageSize }

theorem texts_only (p' : ValueParameter) :
    (q.only p).texts p' = if p' = p then q.texts p' else [] := by
  cases p <;> cases p' <;> rfl

theorem flatMap_all_single {β : Type} (f : ValueParameter → List β) :
    (ValueParameter.all.flatMap fun p' => if p' = p then f p' else []) = f p := by
  cases p <;> simp [ValueParameter.all]

theorem faults_only : (q.only p).faults = q.offences p := by
  rw [faults_eq, ← flatMap_all_single p q.offences]
  congr 1
  funext p'
  rw [offences, texts_only]
  split <;> rfl

theorem field_of_mem_offences {v : Violation} (h : v ∈ q.offences p) : v.field = p.name := by
  obtain ⟨t, -, ht⟩ := List.mem_filterMap.mp h
  exact (ValueParameter.quoted_of_violation? ht).2.1

theorem filter_faults : q.faults.filter (fun v => v.field = p.name) = q.offences p := by
  rw [faults_eq, List.filter_flatMap, ← flatMap_all_single p q.offences]
  congr 1
  funext p'
  split
  · rename_i heq
    subst heq
    exact List.filter_eq_self.mpr fun v hv => decide_eq_true (field_of_mem_offences q p' hv)
  · rename_i hne
    refine List.filter_eq_nil_iff.mpr fun v hv hname => hne ?_
    rw [decide_eq_true_iff, field_of_mem_offences q p' hv] at hname
    exact ValueParameter.name_injective hname

end QueryParams

/-! ## The report -/

/-- The violations that are reported: none if there is a result. -/
def reported {α : Type} : Except (List Violation) α → List Violation
  | .ok _ => []
  | .error vs => vs

theorem QueryParams.reported_parse (q : QueryParams) (usualSize : Nat) :
    reported (q.parse usualSize) = q.faults := by
  rw [parse_eq]
  cases hfaults : q.faults <;> rfl

theorem QueryParams.parse_fails_iff (q : QueryParams) (usualSize : Nat) :
    (∃ vs, q.parse usualSize = .error vs) ↔ ∃ p, ∃ t ∈ q.texts p, ¬ p.Names t := by
  have hfaults : (∃ vs, q.parse usualSize = .error vs) ↔ ¬ q.faults = [] := by
    rw [parse_eq]
    cases q.faults with
    | nil => exact iff_of_false (fun ⟨_, h⟩ => nomatch h) (fun h => h rfl)
    | cons v rest => exact iff_of_true ⟨_, rfl⟩ (List.cons_ne_nil v rest)
  rw [hfaults, q.faults_eq_nil_iff]
  push Not
  rfl

/-- **Every parameter that cannot be read is reported.** A search fails exactly if some text that a
parameter says names no value; for each such text there is one violation, which quotes it, parameter by
parameter and in the order of the texts. A parameter alone has the violations that are reported under its
name. -/
theorem unreadable_parameters_reported (q : QueryParams) (usualSize : Nat) :
    ∃ texts : ValueParameter → List String, (∀ p ts, q.SaysTexts p ts ↔ ts = texts p) ∧
      ((∃ vs, q.parse usualSize = .error vs) ↔ ∃ p, ∃ t ∈ texts p, ¬ p.Names t) ∧
      reported (q.parse usualSize) =
        (ValueParameter.all.flatMap fun p => (texts p).filterMap p.violation?) ∧
      (∀ (p : ValueParameter) (t : String), (p.violation? t = none ↔ p.Names t) ∧
        ∀ v, p.violation? t = some v → v.field = p.name ∧
          ∃ problem, v.fault.message = "'" ++ t ++ "': " ++ problem) ∧
      ∀ p anySize, reported ((q.only p).parse anySize) =
        (reported (q.parse usualSize)).filter fun v => v.field = p.name := by
  refine ⟨q.texts, q.saysTexts_iff, q.parse_fails_iff usualSize, ?_,
    fun p t => ⟨ValueParameter.violation?_eq_none_iff, fun v hv => ?_⟩, fun p anySize => ?_⟩
  · rw [QueryParams.reported_parse, QueryParams.faults_eq]
    rfl
  · obtain ⟨-, hfield, problem, -, hmessage⟩ := ValueParameter.quoted_of_violation? hv
    exact ⟨hfield, problem, hmessage⟩
  · rw [QueryParams.reported_parse, QueryParams.reported_parse, QueryParams.faults_only,
      QueryParams.filter_faults]

/-- Two kinds of actors, an instant, a field and a number that cannot be read, beside parameters that
can. -/
example :
    let q : QueryParams := {
      actorTypes := some "robot, admin,, pilot\t"
      dateFrom := some " yesterday"
      dateTo := some "  "
      sortBy := some "actor"
      sortOrder := some "ASC"
      page := some "-1" }
    (reported (q.parse 20)).map Violation.text = [
      "actorTypes: 'robot': unknown actor type: robot",
      "actorTypes: 'pilot': unknown actor type: pilot",
      "dateFrom: 'yesterday': input contains invalid characters",
      "sortBy: 'actor': unsupported sort field: actor",
      "page: '-1': invalid digit found in string"] := by
  decide +kernel

end EventLedger
