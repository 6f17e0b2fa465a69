import EventLedger.Proofs.Audit.BusyMemory
import EventLedger.Proofs.Audit.Pages
import EventLedger.Proofs.Audit.Sealing
import EventLedger.Proofs.Verification.Report
import EventLedger.Verification.Walk

/-!
# The walk through a ledger to which others write

Each page is counted and then fetched, and batches arrive in front of both. Because records are only
added behind the others, a page that was full stays where it is, and a page behind which there was
nothing is the last one.

* `examined`, **`checkPage?_eq`**: the records of a page that are checked;
* `Interruption`, `Checked`, `walkRecords`: the records of all pages, in the order in which they are
  checked, and what ends a walk too early;
* **`run_verifyLedger`**: a report is these records, checked one by one;
* `Walked`, **`walked_from`**: what the pages from one on have in them;
* `walkRecords_refused`, **`walked_all`**: a range that is refused, and all pages;
* **`busy_walk_misses_nothing`**.
-/

namespace EventLedger

/-! ## The records of a page -/

/-- The records that are checked: all of them, or those up to the first altered one. -/
def examined (failFast : Bool) : List Record → List Record
  | [] => []
  | r :: rest => r :: if failFast && !r.intact then [] else examined failFast rest

/-- Some record ends the verification. -/
def endsWithin (failFast : Bool) (rs : List Record) : Bool := failFast && rs.any fun r => !r.intact

theorem endsWithin_cons (failFast : Bool) (r : Record) (rest : List Record) :
    endsWithin failFast (r :: rest) = ((failFast && !r.intact) || endsWithin failFast rest) := by
  rw [endsWithin, List.any_cons, Bool.and_or_distrib_left]
  rfl

theorem checkPage?_eq (failFast : Bool) (report : VerificationReport) (rs : List Record) :
    checkPage? failFast report rs =
      ((examined failFast rs).foldlM VerificationReport.check? report).map
        (·, endsWithin failFast rs) := by
  induction rs generalizing report with
  | nil => simp [checkPage?, examined, endsWithin]
  | cons r rest ih =>
    rw [checkPage?, examined, List.foldlM_cons, endsWithin_cons]
    cases report.check? r with
    | none => rfl
    | some next => cases h : failFast && !r.intact <;> simp [ih]

theorem examined_append (failFast : Bool) (rs others : List Record) :
    examined failFast (rs ++ others) =
      examined failFast rs ++ if endsWithin failFast rs then [] else examined failFast others := by
  induction rs with
  | nil => simp [examined, endsWithin]
  | cons r rest ih =>
    rw [List.cons_append, examined, examined, endsWithin_cons, ih]
    cases failFast && !r.intact with
    | true => simp
    | false => simp

theorem examined_all (rs : List Record) : examined false rs = rs := by
  induction rs with
  | nil => rfl
  | cons r rest ih =>
    rw [examined, ih]
    rfl

/-! ## The records of a walk -/

/-- The filter of a walk. -/
def VerifyOptions.filter (o : VerifyOptions) : Filter :=
  (o.range.map Filter.within).getD .everything

/-- The record is in the range of a walk. -/
def VerifyOptions.covers (o : VerifyOptions) (r : Record) : Bool :=
  o.range.all (·.contains r.timestamp)

/-- What ends a walk too early. -/
inductive Interruption where
  | failed (e : VerifyError)
  | brokenOff

/-- The records that a walk comes to, and what ends it too early. -/
structure Checked where
  records : List Record
  failure : Option Interruption

/-- Further records in front. -/
def Checked.behind (c : Checked) (items : List Record) : Checked := ⟨items ++ c.records, c.failure⟩

/-- A report with all of the records checked, one by one, unless the walk has ended too early. -/
def Checked.report (c : Checked) (report : VerificationReport) :
    Except VerifyError (Option VerificationReport) :=
  match c.failure with
  | none => .ok (c.records.foldlM VerificationReport.check? report)
  | some (.failed e) => .error e
  | some .brokenOff => .ok none

variable {σ : Type}

/-- The records on the pages from `page` on, `left` pages at most. -/
def recordsFrom (ledger : Ledger (StateM σ)) (options : VerifyOptions) :
    (left page : Nat) → σ → Checked × σ
  | 0, _, st => (⟨[], some .brokenOff⟩, st)
  | left + 1, page, st =>
    match (ledger.query options.filter ⟨page, options.pageSize⟩ .causal).run st with
    | (.error e, later) => (⟨[], some (.failed ⟨page, e⟩)⟩, later)
    | (.ok none, later) => (⟨[], some .brokenOff⟩, later)
    | (.ok (some found), later) =>
      if found.info.hasNextPage then
        let rest := recordsFrom ledger options left (page + 1) later
        (rest.1.behind found.items, rest.2)
      else (⟨found.items, none⟩, later)

/-- The records on all pages. -/
def walkRecords (ledger : Ledger (StateM σ)) (options : VerifyOptions) : σ → Checked × σ :=
  recordsFrom ledger options (pageLimit - 1) 1

theorem Checked.report_behind (c : Checked) {items : List Record} {start next : VerificationReport}
    (h : items.foldlM VerificationReport.check? start = some next) :
    (c.behind items).report start = c.report next := by
  unfold Checked.report Checked.behind
  dsimp only
  rw [List.foldlM_append, h]
  rfl

theorem run_walkFrom (ledger : Ledger (StateM σ)) {options : VerifyOptions}
    (hf : options.failFast = false) (left page : Nat) {report last : VerificationReport} {st : σ}
    (h : (recordsFrom ledger options left page st).1.records.foldlM VerificationReport.check? report =
      some last) :
    (walkFrom ledger options left page report).run st =
      ((recordsFrom ledger options left page st).1.report report,
        (recordsFrom ledger options left page st).2) := by
  induction left generalizing page report st with
  | zero => rfl
  | succ left ih =>
    have h1 : options.filter = (options.range.map Filter.within).getD .everything := rfl
    rw [recordsFrom] at h ⊢
    rw [walkFrom, run_bind, run_adapt, ← h1, hf]
    rcases hq : (ledger.query options.filter ⟨page, options.pageSize⟩ .causal).run st with
      ⟨e | found?, later⟩
    · rfl
    · rw [hq] at h
      cases found? with
      | none => rfl
      | some found =>
        dsimp only at h ⊢
        rw [checkPage?_eq, examined_all, endsWithin, Bool.false_and]
        cases hn : found.info.hasNextPage with
        | false =>
          rw [hn, if_neg Bool.false_ne_true] at h
          dsimp only at h
          rw [if_neg Bool.false_ne_true, Checked.report, h]
          rfl
        | true =>
          rw [hn, if_pos rfl, Checked.behind, List.foldlM_append] at h
          obtain ⟨next, hitems, hrest⟩ := Option.bind_eq_some_iff.mp h
          rw [if_pos rfl, Checked.report_behind _ hitems, hitems]
          exact ih (page + 1) hrest

/-- **A report is the records of the walk, checked one by one**, if no check breaks off. -/
theorem run_verifyLedger (ledger : Ledger (StateM σ)) {options : VerifyOptions}
    (hf : options.failFast = false) (startedAt finishedAt : Instant) {st : σ}
    (h : Continuable (walkRecords ledger options st).1.records) :
    (verifyLedger ledger options startedAt finishedAt).run st =
      (((walkRecords ledger options st).1.report (.start startedAt)).map <|
          Option.map fun report => { report with finishedAt := some finishedAt },
        (walkRecords ledger options st).2) := by
  have hfold := VerificationReport.foldlM_check?_start startedAt (walkRecords ledger options st).1.records
  rw [if_pos h] at hfold
  unfold verifyLedger
  rw [run_bind, run_walkFrom ledger hf (pageLimit - 1) 1 hfold]
  unfold walkRecords
  cases (recordsFrom ledger options (pageLimit - 1) 1 st).1.report (.start startedAt) <;> rfl

/-! ## Pages of a memory to which others write -/

namespace BusyMemory

theorem before_recordsFrom (limits : Limits) (storedAt : Instant) (options : VerifyOptions)
    (left page : Nat) (b : BusyMemory) :
    b.Before (recordsFrom (ledger limits storedAt) options left page b).2 := by
  induction left generalizing page b with
  | zero => exact Before.refl b
  | succ left ih =>
    have h1 := b.before_query limits storedAt options.filter ⟨page, options.pageSize⟩
    rw [recordsFrom]
    rcases hq : ((ledger limits storedAt).query options.filter ⟨page, options.pageSize⟩
      .causal).run b with ⟨e | found?, later⟩
    · rw [hq] at h1
      exact h1
    · rw [hq] at h1
      cases found? with
      | none => exact h1
      | some found =>
        dsimp only
        cases found.info.hasNextPage with
        | false => exact h1
        | true => exact h1.trans (ih _ later)

/-- What is known of a walk that goes on behind the first `n` records in its range: together with
these it has records of the end only, and all those of the start. -/
structure Walked (f : Filter) (n : Nat) (b : BusyMemory) (c : Checked) (last : BusyMemory) :
    Prop where
  failure : c.failure = none
  sound : (b.memory.admitted f).take n ++ c.records <+: last.memory.admitted f
  complete : b.memory.admitted f <+: (b.memory.admitted f).take n ++ c.records

namespace PageRead

variable {f : Filter} {p : PageRequest} {b later : BusyMemory} {found : Page Record}

theorem take_append_items (h : PageRead f p b found later) (hb : b.memory.Numbered)
    (hn : (p.page - 1) * p.pageSize ≤ (b.memory.admitted f).length) :
    (b.memory.admitted f).take ((p.page - 1) * p.pageSize) ++ found.items =
      (later.memory.admitted f).take ((p.page - 1) * p.pageSize + p.pageSize) := by
  have h1 : (b.memory.admitted f).take ((p.page - 1) * p.pageSize) =
      (later.memory.admitted f).take ((p.page - 1) * p.pageSize) := by
    rw [List.prefix_iff_eq_take.mp (h.before.admitted f), List.take_take, Nat.min_eq_left hn]
  rw [h.items hb, h1, List.take_add]

theorem walked_last (h : PageRead f p b found later) (hb : b.memory.Numbered)
    (hn : (p.page - 1) * p.pageSize ≤ (b.memory.admitted f).length)
    (hl : (b.memory.admitted f).length ≤ (p.page - 1) * p.pageSize + p.pageSize) :
    Walked f ((p.page - 1) * p.pageSize) b ⟨found.items, none⟩ later := by
  refine ⟨rfl, ?_, ?_⟩
  · rw [h.take_append_items hb hn]
    exact List.take_prefix _ _
  · rw [h.take_append_items hb hn, List.prefix_take_iff]
    exact ⟨h.before.admitted f, hl⟩

theorem walked_behind (h : PageRead f p b found later) (hb : b.memory.Numbered)
    (hn : (p.page - 1) * p.pageSize ≤ (b.memory.admitted f).length) {c : Checked}
    {last : BusyMemory} (hw : Walked f ((p.page - 1) * p.pageSize + p.pageSize) later c last) :
    Walked f ((p.page - 1) * p.pageSize) b (c.behind found.items) last := by
  refine ⟨hw.failure, ?_, ?_⟩
  · rw [Checked.behind, ← List.append_assoc, h.take_append_items hb hn]
    exact hw.sound
  · rw [Checked.behind, ← List.append_assoc, h.take_append_items hb hn]
    exact (h.before.admitted f).trans hw.complete

end PageRead

section Walk

variable {limits : Limits} {options : VerifyOptions}

/-- **The pages from one on**, if the pages in front of it were full. -/
theorem walked_from (storedAt : Instant) (h1 : 1 ≤ options.pageSize)
    (h2 : options.pageSize ≤ limits.maxPageSize) (hv : options.filter.violations = [])
    {left page : Nat} {b : BusyMemory} (hb : b.memory.Numbered)
    (hp : 1 ≤ page) (hl : page < pageLimit) (hs : pageLimit ≤ page + left)
    (hfull : (page - 1) * options.pageSize ≤ (b.memory.admitted options.filter).length)
    {walk : Checked × BusyMemory}
    (hw : recordsFrom (ledger limits storedAt) options left page b = walk)
    (hn : pageCount (walk.2.memory.admitted options.filter).length options.pageSize < pageLimit)
    (hi : (walk.2.memory.admitted options.filter).length < Nat.pow 2 63) :
    Walked options.filter ((page - 1) * options.pageSize) b walk.1 walk.2 := by
  induction left generalizing page b walk with
  | zero => omega
  | succ left ih =>
    -- the place of the page is within the records of the end, and these are counted by 63 bits
    have hplace : (page - 1) * options.pageSize < Nat.pow 2 63 := by
      have h3 := before_recordsFrom limits storedAt options (left + 1) page b
      rw [hw] at h3
      have h4 := (h3.admitted options.filter).length_le
      omega
    obtain ⟨found, later, hq, hread⟩ :=
      b.run_query (p := ⟨page, options.pageSize⟩) (PageRequest.violations_eq_nil hp h1 h2) hv hplace
        storedAt
    obtain ⟨total, hinfo, ht1, ht2⟩ := hread.total
    have hnext : found.info.hasNextPage = true ↔ page * options.pageSize < total := by
      rw [hinfo, ← lt_pageCount_iff h1]
      exact decide_eq_true_iff
    have hbehind : (page - 1) * options.pageSize + options.pageSize = page * options.pageSize := by
      rw [← Nat.succ_mul, Nat.succ_eq_add_one, Nat.sub_add_cancel hp]
    rw [recordsFrom, hq] at hw
    dsimp only at hw
    by_cases hx : found.info.hasNextPage = true
    · have h3 := hnext.mp hx
      have h4 := before_recordsFrom limits storedAt options left (page + 1) later
      rw [if_pos hx] at hw
      rw [← hw] at hn hi ⊢
      dsimp only at hn hi
      have h5 := (h4.admitted options.filter).length_le
      have h6 := (lt_pageCount_iff h1).mpr (Nat.lt_of_lt_of_le h3 (Nat.le_trans ht2 h5))
      refine hread.walked_behind hb hfull ?_
      dsimp only
      rw [hbehind]
      have h7 : 1 ≤ page + 1 := Nat.le_add_left 1 page
      exact ih (hread.before.numbered hb) h7 (by omega) (by omega)
        (Nat.le_of_lt (Nat.lt_of_lt_of_le h3 ht2)) rfl hn hi
    · have h3 := mt hnext.mpr hx
      rw [if_neg hx] at hw
      rw [← hw]
      refine hread.walked_last hb hfull ?_
      dsimp only
      omega

end Walk

end BusyMemory

/-! ## Ranges -/

theorem Instant.before_or {a c : Instant} (h : a.before c = true) (b : Instant) :
    a.before b = true ∨ b.before c = true := by
  simp only [Instant.before, Bool.or_eq_true, Bool.and_eq_true, decide_eq_true_eq,
    beq_iff_eq] at *
  omega

namespace VerifyOptions

variable (o : VerifyOptions)

theorem admits_filter (r : Record) : o.filter.admits r = o.covers r := by
  cases h : o.range with
  | none => simp [filter, covers, h, Filter.everything, Filter.admits, admitted]
  | some d => simp [filter, covers, h, Filter.within, Filter.admits, admitted, DateRange.contains]

theorem admitted_filter (m : Memory) : m.admitted o.filter = m.records.filter o.covers := by
  unfold Memory.admitted
  congr 1
  funext r
  exact o.admits_filter r

theorem covers_eq_false {o : VerifyOptions} (h : o.filter.violations ≠ []) (r : Record) :
    o.covers r = false := by
  cases hr : o.range with
  | none =>
    simp only [filter, hr] at h
    exact absurd rfl h
  | some d =>
    have h1 : d.finish.before d.start = true := by
      simp only [filter, hr] at h
      by_cases hb : d.finish.before d.start = true
      · exact hb
      · exact absurd (if_neg hb) h
    rw [covers, hr, Option.all_some, DateRange.contains, Instant.notAfter, Instant.notAfter]
    rcases Instant.before_or h1 r.timestamp with h2 | h2
    · rw [h2, Bool.not_true, Bool.and_false]
    · rw [h2, Bool.not_true, Bool.false_and]

end VerifyOptions

/-! ## All pages -/

theorem before_walkRecords (limits : Limits) (storedAt : Instant) (options : VerifyOptions)
    (b : BusyMemory) : b.Before (walkRecords (BusyMemory.ledger limits storedAt) options b).2 :=
  BusyMemory.before_recordsFrom limits storedAt options (pageLimit - 1) 1 b

theorem walkRecords_refused {limits : Limits} {options : VerifyOptions} (h1 : 1 ≤ options.pageSize)
    (h2 : options.pageSize ≤ limits.maxPageSize) (hv : options.filter.violations ≠ [])
    (storedAt : Instant) (b : BusyMemory) :
    walkRecords (BusyMemory.ledger limits storedAt) options b =
      (⟨[], some (.failed ⟨1, .invalid options.filter.violations⟩)⟩, b) := by
  have h3 : pageLimit - 1 = (pageLimit - 2) + 1 := rfl
  have h4 : (PageRequest.mk 1 options.pageSize).violations limits.maxPageSize = [] :=
    PageRequest.violations_eq_nil (Nat.le_refl 1) h1 h2
  have h5 := Ledger.run_query_refused (BusyMemory.ledger limits storedAt) b options.filter
    ⟨1, options.pageSize⟩ .causal h4 hv
  rw [walkRecords, h3, recordsFrom, h5]

/-- The records in the range of a walk, in the order of storing. -/
def Memory.covered (m : Memory) (options : VerifyOptions) : List Record :=
  m.records.filter options.covers

theorem Memory.Numbered.length_covered_lt {m : Memory} (hm : m.Numbered)
    (hc : Text.i64.holds m.lastSequence = true) (options : VerifyOptions) :
    (m.covered options).length < Nat.pow 2 63 :=
  Nat.lt_of_le_of_lt (List.length_filter_le _ _) (hm.length_lt hc)

theorem Memory.Numbered.stepwise {m : Memory} (hm : m.Numbered)
    (hc : Text.i64.holds m.lastSequence = true) : Stepwise m.records := by
  refine hm.increasing.imp_of_mem fun {a b} ha hb hlt => ?_
  obtain ⟨hlow, -⟩ := Text.IntegerType.holds_iff.mp (hm.holds_sequenceNumber hc ha)
  obtain ⟨-, hhigh⟩ := Text.IntegerType.holds_iff.mp (hm.holds_sequenceNumber hc hb)
  exact Text.IntegerType.holds_iff.mpr (by omega)

/-- **All pages**: the records checked are in between those of the start and those of the end. -/
theorem walked_all {limits : Limits} {options : VerifyOptions} (storedAt : Instant)
    (h1 : 1 ≤ options.pageSize) (h2 : options.pageSize ≤ limits.maxPageSize) {b : BusyMemory}
    (hb : b.memory.Numbered) {walk : Checked × BusyMemory}
    (hw : walkRecords (BusyMemory.ledger limits storedAt) options b = walk)
    (hp : pageCount (walk.2.memory.covered options).length options.pageSize < pageLimit)
    (hc : Text.i64.holds walk.2.memory.lastSequence = true) :
    (walk.1.failure = none ↔ options.filter.violations = []) ∧
    walk.1.records <+: walk.2.memory.covered options ∧
    b.memory.covered options <+: walk.1.records := by
  by_cases hv : options.filter.violations = []
  · have hl : walk.2.memory.Numbered := by
      rw [← hw]
      exact (before_walkRecords limits storedAt options b).numbered hb
    have h3 := hl.length_covered_lt hc options
    have h4 : (1 - 1) * options.pageSize = 0 := Nat.zero_mul _
    simp only [Memory.covered, ← options.admitted_filter] at hp h3 ⊢
    have h5 := BusyMemory.walked_from storedAt h1 h2 hv hb (Nat.le_refl 1) (by decide)
      (by decide) (by omega) hw hp h3
    rw [h4] at h5
    have h6 := h5.sound
    have h7 := h5.complete
    rw [List.take_zero, List.nil_append] at h6 h7
    exact ⟨iff_of_true h5.failure hv, h6, h7⟩
  · rw [walkRecords_refused h1 h2 hv] at hw
    have h3 : b.memory.covered options = [] :=
      List.filter_eq_nil_iff.mpr fun r _ => by
        rw [VerifyOptions.covers_eq_false hv r]
        exact Bool.false_ne_true
    rw [← hw, h3]
    exact ⟨iff_of_false (Option.some_ne_none _) hv, List.nil_prefix, List.prefix_rfl⟩

/-- **The walk misses nothing while others write.** Whatever was appended before, and whatever
batches arrive in front of each count and each fetch: the report is made of records in the range, in
the order of storing and without one left out between them; all that were there at the start are
among them. The counter is a signed number of 64 bits, so that no check breaks off. -/
theorem busy_walk_misses_nothing (limits : Limits) (storedAt startedAt finishedAt : Instant)
    (history : List Batch) (arriving : List (List Batch)) {options : VerifyOptions}
    (hf : options.failFast = false) (h1 : 1 ≤ options.pageSize)
    (h2 : options.pageSize ≤ limits.maxPageSize) {walk : Checked × BusyMemory}
    (hw : walkRecords (BusyMemory.ledger limits storedAt) options
      ⟨Memory.empty.written history, arriving⟩ = walk)
    (hp : pageCount (walk.2.memory.covered options).length options.pageSize < pageLimit)
    (hc : Text.i64.holds walk.2.memory.lastSequence = true) :
    (verifyLedger (BusyMemory.ledger limits storedAt) options startedAt finishedAt).run
        ⟨Memory.empty.written history, arriving⟩ =
      ((walk.1.report (.start startedAt)).map <| Option.map fun report =>
        { report with finishedAt := some finishedAt }, walk.2) ∧
    (walk.1.failure = none ↔ options.filter.violations = []) ∧
    (walk.1.failure = none → walk.1.report (.start startedAt) =
      .ok (some (.ofRecords startedAt walk.1.records))) ∧
    (∀ further, walk.1.records <+: (walk.2.memory.written further).covered options) ∧
    walk.1.records.Pairwise (fun a b => a.sequenceNumber < b.sequenceNumber) ∧
    ∀ r ∈ (Memory.empty.written history).covered options, r ∈ walk.1.records := by
  have hb : (Memory.empty.written history).Numbered := Memory.numbered_empty.written history
  have hl : walk.2.memory.Numbered := by
    rw [← hw]
    exact (before_walkRecords limits storedAt options _).numbered hb
  obtain ⟨h3, h4, h5⟩ := walked_all storedAt h1 h2 hb hw hp hc
  have hincreasing := (hl.increasing.filter options.covers).sublist h4.sublist
  have hstepwise : Stepwise walk.1.records :=
    (hl.stepwise hc).sublist (h4.sublist.trans List.filter_sublist)
  have hcontinuable := hstepwise.continuable (hincreasing.imp Int.le_of_lt)
  refine ⟨?_, h3, fun hnone => ?_, fun further => ?_, hincreasing, fun r hr => h5.subset hr⟩
  · rw [← hw] at hcontinuable
    rw [run_verifyLedger _ hf startedAt finishedAt hcontinuable, hw]
  · rw [Checked.report, hnone, VerificationReport.foldlM_check?_start, if_pos hcontinuable]
  · exact h4.trans ((walk.2.memory.prefix_written further).filter _)

/-- A refund that arrives under an id of its own. -/
def Batch.refund (id : Uuid) : Batch :=
  ⟨.epoch, [{ Submission.refund with id := some id }.seal ⟨id, id⟩ .epoch]⟩

/-- Two refunds, a third one between the first count and the first fetch, and the first one once
more before the second fetch. -/
theorem walk_amid_refunds :
    let options : VerifyOptions := ⟨none, 1, false⟩
    let history : List Batch := [.refund ⟨1⟩, .refund ⟨2⟩]
    let walk := walkRecords (BusyMemory.ledger .standard .epoch) options
      ⟨Memory.empty.written history, [[], [.refund ⟨3⟩], [], [.refund ⟨1⟩]]⟩
    pageCount (walk.2.memory.covered options).length options.pageSize < pageLimit ∧
      Text.i64.holds walk.2.memory.lastSequence = true ∧
      (walk.1.failure = none ↔ options.filter.violations = []) ∧
      ∀ r ∈ (Memory.empty.written history).covered options, r ∈ walk.1.records := by
  intro options history walk
  have h1 : pageCount (walk.2.memory.covered options).length options.pageSize < pageLimit := by
    decide +kernel
  have h2 : Text.i64.holds walk.2.memory.lastSequence = true := by decide +kernel
  have hf : options.failFast = false := rfl
  have h3 := busy_walk_misses_nothing .standard .epoch .epoch .epoch history
    [[], [.refund ⟨3⟩], [], [.refund ⟨1⟩]] hf (by decide) (by decide) (Eq.refl walk) h1 h2
  exact ⟨h1, h2, h3.2.1, h3.2.2.2.2.2⟩

end EventLedger
