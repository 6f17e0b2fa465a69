import EventLedger.Proofs.Audit.TamperEvidence
import EventLedger.Proofs.Verification.Report
import EventLedger.Proofs.Verification.Walk

/-!
# The walk through a quiet ledger

Nobody writes while the ledger is verified, and its records may be any, altered ones included. The
pages then are pieces of one listing by sequence number, and the report is the one on that listing.

* **`run_walkFrom_memory`**, **`run_verifyLedger_memory`**: the pages from one on, and all of them;
* `run_verifyLedger_refused`: a range that starts after its end;
* `EndsAtMismatch`, `endsAtMismatch_examined`: the records up to the first altered one;
* **`quiet_ledger_reported`**.
-/

namespace EventLedger

/-! ## Pages of a memory -/

section Pages

variable (limits : Limits) (options : VerifyOptions) (storedAt : Instant) {m : Memory}

/-- **The pages from one on** have the records in them that are listed from there on. They are checked
one by one, as far as that goes on. -/
theorem run_walkFrom_memory (h1 : 1 ≤ options.pageSize) (h2 : options.pageSize ≤ limits.maxPageSize)
    (hv : options.filter.violations = [])
    (hn : pageCount (m.count options.filter) options.pageSize < pageLimit)
    (hm : m.count options.filter < Nat.pow 2 63) {left page : Nat} (hp : 1 ≤ page)
    (hl : page < pageLimit) (hs : pageLimit ≤ page + left)
    (hplace : (page - 1) * options.pageSize ≤ m.count options.filter)
    (report : VerificationReport) :
    (walkFrom (Memory.ledger limits storedAt) options left page report).run m =
      (.ok ((examined options.failFast ((RecordOrder.causal.sort (m.admitted options.filter)).drop
        ((page - 1) * options.pageSize))).foldlM VerificationReport.check? report), m) := by
  -- the pages in front have been checked: `report` has them, and this page starts behind them
  induction left generalizing page report with
  | zero => omega
  | succ left ih =>
    have hfilter : options.filter = (options.range.map Filter.within).getD .everything := rfl
    have hquery := m.run_query limits storedAt .causal
      (p := ⟨page, options.pageSize⟩) (PageRequest.violations_eq_nil hp h1 h2) hv (by
        dsimp only
        omega)
    have hnext : (m.pageAt options.filter .causal ⟨page, options.pageSize⟩).info.hasNextPage =
      decide (page < pageCount (m.count options.filter) options.pageSize) := rfl
    rw [walkFrom, run_bind, run_adapt, ← hfilter, hquery]
    dsimp only
    rw [hnext]
    -- the page, and what is listed behind it
    obtain ⟨listed, hlisted⟩ :
        ∃ listed, listed = RecordOrder.causal.sort (m.admitted options.filter) := ⟨_, rfl⟩
    have hlength : listed.length = m.count options.filter := by
      rw [hlisted, Memory.length_sort_admitted]
    have hitems : (m.pageAt options.filter .causal ⟨page, options.pageSize⟩).items =
        (listed.drop ((page - 1) * options.pageSize)).take options.pageSize := by
      rw [hlisted]
      rfl
    have hrest := drop_eq_page_append listed options.pageSize hp
    rw [hitems, ← hlisted, hrest, examined_append, ← hrest, checkPage?_eq, List.foldlM_append]
    cases (examined options.failFast
      ((listed.drop ((page - 1) * options.pageSize)).take options.pageSize)).foldlM
        VerificationReport.check? report with
    | none => rfl
    | some next =>
      simp only [Option.map_some, Option.bind_eq_bind, Option.bind_some]
      -- an altered record, a page behind this one, or neither
      cases hend : endsWithin options.failFast
        ((listed.drop ((page - 1) * options.pageSize)).take options.pageSize) with
      | true => rfl
      | false =>
        by_cases hlast : page < pageCount (m.count options.filter) options.pageSize
        · have h3 := (lt_pageCount_iff h1).mp hlast
          rw [decide_eq_true hlast]
          simp only [Bool.not_true, Bool.or_false, Bool.false_eq_true, if_false]
          rw [ih (by omega) (by omega) (by omega) (by rw [Nat.add_sub_cancel]; omega),
            Nat.add_sub_cancel, ← hlisted]
        · have h3 := mt (lt_pageCount_iff h1).mpr hlast
          have h4 : listed.drop (page * options.pageSize) = [] := by
            apply List.drop_eq_nil_of_le
            omega
          rw [decide_eq_false hlast, h4]
          rfl

/-- **All pages have all records in them.** There is a report on those that are examined, exactly if
their numbers go on. -/
theorem run_verifyLedger_memory (h1 : 1 ≤ options.pageSize)
    (h2 : options.pageSize ≤ limits.maxPageSize) (hv : options.filter.violations = [])
    (hn : pageCount (m.count options.filter) options.pageSize < pageLimit)
    (hm : m.count options.filter < Nat.pow 2 63) (startedAt finishedAt : Instant) :
    (verifyLedger (Memory.ledger limits storedAt) options startedAt finishedAt).run m =
      (.ok (VerificationReport.ofRecords? startedAt finishedAt
        (examined options.failFast (RecordOrder.causal.sort (m.admitted options.filter)))), m) := by
  have hpages : pageLimit ≤ 1 + (pageLimit - 1) := by decide
  have hwalk := run_walkFrom_memory limits options storedAt h1 h2 hv hn hm (Nat.le_refl 1) (by decide)
    hpages (by omega) (.start startedAt)
  have hzero : (1 - 1) * options.pageSize = 0 := Nat.zero_mul _
  rw [hzero, List.drop_zero, VerificationReport.foldlM_check?_start] at hwalk
  unfold verifyLedger
  rw [run_bind, hwalk, VerificationReport.ofRecords?]
  dsimp only
  split <;> rfl

theorem run_verifyLedger_refused (h1 : 1 ≤ options.pageSize)
    (h2 : options.pageSize ≤ limits.maxPageSize) (hv : options.filter.violations ≠ [])
    (startedAt finishedAt : Instant) (m : Memory) :
    (verifyLedger (Memory.ledger limits storedAt) options startedAt finishedAt).run m =
      (.error ⟨1, .invalid options.filter.violations⟩, m) := by
  have hfilter : options.filter = (options.range.map Filter.within).getD .everything := rfl
  have hquery := Ledger.run_query_refused (Memory.ledger limits storedAt) m options.filter
    ⟨1, options.pageSize⟩ .causal (PageRequest.violations_eq_nil (Nat.le_refl 1) h1 h2) hv
  have hlimit : pageLimit - 1 = (pageLimit - 2) + 1 := rfl
  unfold verifyLedger
  rw [hlimit, walkFrom, run_bind, run_bind, run_adapt, ← hfilter, hquery]

end Pages

/-! ## The first altered record -/

/-- The records of a list up to the first altered one, which is among them; all if none is. -/
def EndsAtMismatch (rs seen : List Record) : Prop :=
  (seen = rs ∧ ∀ r ∈ rs, r.intact = true) ∨
    ∃ front r, seen = front ++ [r] ∧ seen <+: rs ∧ (∀ x ∈ front, x.intact = true) ∧ r.intact = false

theorem endsAtMismatch_examined (rs : List Record) : EndsAtMismatch rs (examined true rs) := by
  induction rs with
  | nil => exact Or.inl ⟨rfl, fun r hr => absurd hr List.not_mem_nil⟩
  | cons r rest ih =>
    cases hr : r.intact with
    | false =>
      have h1 : examined true (r :: rest) = [r] := by simp [examined, hr]
      rw [h1]
      refine Or.inr ⟨[], r, rfl, ⟨rest, rfl⟩, fun x hx => absurd hx List.not_mem_nil, hr⟩
    | true =>
      have h1 : examined true (r :: rest) = r :: examined true rest := by simp [examined, hr]
      rw [h1]
      rcases ih with ⟨hall, hintact⟩ | ⟨front, z, hseen, hprefix, hintact, hz⟩
      · exact Or.inl ⟨by rw [hall], List.forall_mem_cons.mpr ⟨hr, hintact⟩⟩
      · refine Or.inr ⟨r :: front, z, by rw [hseen]; rfl, ?_, ?_, hz⟩
        · exact List.cons_prefix_cons.mpr ⟨rfl, hprefix⟩
        · exact List.forall_mem_cons.mpr ⟨hr, hintact⟩

theorem examined_of_intact {failFast : Bool} {rs : List Record}
    (h : failFast = true → ∀ r ∈ rs, r.intact = true) : examined failFast rs = rs := by
  cases failFast with
  | false => exact examined_all rs
  | true =>
    rcases endsAtMismatch_examined rs with ⟨hall, -⟩ | ⟨front, r, hseen, hprefix, -, hr⟩
    · exact hall
    · have hmem : r ∈ rs := hprefix.subset (by simp [hseen])
      rw [h rfl r hmem] at hr
      cases hr

theorem EndsAtMismatch.sublist {rs seen : List Record} (h : EndsAtMismatch rs seen) :
    seen.Sublist rs := by
  rcases h with ⟨rfl, -⟩ | ⟨front, r, -, hprefix, -, -⟩
  · exact List.Sublist.refl _
  · exact hprefix.sublist

theorem EndsAtMismatch.all_intact {rs seen : List Record} (h : EndsAtMismatch rs seen) :
    seen.all Record.intact = rs.all Record.intact := by
  rcases h with ⟨rfl, -⟩ | ⟨front, r, rfl, hprefix, -, hr⟩
  · rfl
  · have h1 : r ∈ front ++ [r] := List.mem_append_right _ List.mem_cons_self
    have h2 : (front ++ [r]).all Record.intact = false := by
      rw [List.all_eq_false]
      exact ⟨r, h1, by simp [hr]⟩
    have h3 : rs.all Record.intact = false := by
      rw [List.all_eq_false]
      exact ⟨r, hprefix.subset h1, by simp [hr]⟩
    rw [h2, h3]

/-! ## The report -/

theorem pairwise_sort_causal (rs : List Record) :
    (RecordOrder.causal.sort rs).Pairwise fun a b => a.sequenceNumber ≤ b.sequenceNumber := by
  refine (RecordOrder.causal.pairwise_sort rs).imp fun {a b} h => ?_
  have h1 : RecordOrder.causal.compare a b =
    compareOfLessAndEq a.sequenceNumber b.sequenceNumber := rfl
  rw [RecordOrder.precedes_iff, h1, Ordering.isLE_iff_ne_gt] at h
  rcases Int.lt_or_le b.sequenceNumber a.sequenceNumber with hlt | hle
  · have h2 : compareOfLessAndEq a.sequenceNumber b.sequenceNumber = .gt := by
      rw [compareOfLessAndEq, if_neg (by omega), if_neg (by omega)]
    exact absurd h2 h
  · exact hle

/-- **The report on a quiet ledger.** Whatever its records are, altered ones included, and however
they are cut into pages: the verification ends, and it tells of the records in the range, in the order
of their sequence numbers; if it is to end early, it tells of those up to the first altered one. Both
agree on whether any is altered. Each goes on as long as there are next numbers. -/
theorem quiet_ledger_reported (limits : Limits) {m : Memory} (hm : m.records.length < Nat.pow 2 63)
    {range : Option DateRange} (hr : ∀ d, range = some d → d.finish.before d.start = false)
    (startedAt finishedAt : Instant) :
    ∃ (listed seen : List Record) (full brief : VerificationReport),
      listed.Perm (m.records.filter fun r => range.all (·.contains r.timestamp)) ∧
      listed.Pairwise (fun a b => a.sequenceNumber ≤ b.sequenceNumber) ∧
      EndsAtMismatch listed seen ∧ full.Tells listed ∧ brief.Tells seen ∧
      full.clean = brief.clean ∧
      ∀ storedAt size, 1 ≤ size → size ≤ limits.maxPageSize →
        pageCount listed.length size < pageLimit →
        (Continuable listed →
          (verifyLedger (Memory.ledger limits storedAt) ⟨range, size, false⟩ startedAt finishedAt).run
            m = (.ok (some full), m)) ∧
        (Continuable seen →
          (verifyLedger (Memory.ledger limits storedAt) ⟨range, size, true⟩ startedAt finishedAt).run
            m = (.ok (some brief), m)) := by
  obtain ⟨f, hf⟩ : ∃ f, f = (range.map Filter.within).getD .everything := ⟨_, rfl⟩
  have hv : f.violations = [] := by
    cases range with
    | none => rw [hf]; rfl
    | some d =>
      have h1 : f.violations = DateRange.violations d.start d.finish := by rw [hf]; rfl
      rw [h1, DateRange.violations, hr d rfl]
      rfl
  have hadmitted : m.admitted f = m.records.filter fun r => range.all (·.contains r.timestamp) := by
    rw [hf]
    exact VerifyOptions.admitted_filter ⟨range, 1, false⟩ m
  have hcount : m.count f < Nat.pow 2 63 :=
    Nat.lt_of_le_of_lt (List.length_filter_le _ _) hm
  have hsorted := pairwise_sort_causal (m.admitted f)
  have hends := endsAtMismatch_examined (RecordOrder.causal.sort (m.admitted f))
  have hfull := VerificationReport.tells_ofRecords hsorted startedAt (some finishedAt)
  have hbrief := VerificationReport.tells_ofRecords (hsorted.sublist hends.sublist) startedAt
    (some finishedAt)
  refine ⟨_, _, _, _, ?_, hsorted, hends, hfull, hbrief, ?_, fun storedAt size h1 h2 hn => ?_⟩
  · rw [← hadmitted]
    exact List.mergeSort_perm _ _
  · rw [hfull.clean, hbrief.clean, hends.all_intact]
  · rw [Memory.length_sort_admitted] at hn
    subst hf
    have hone := run_verifyLedger_memory limits ⟨range, size, false⟩ storedAt h1 h2 hv hn hcount
      startedAt finishedAt
    have hother := run_verifyLedger_memory limits ⟨range, size, true⟩ storedAt h1 h2 hv hn hcount
      startedAt finishedAt
    rw [examined_all] at hone
    refine ⟨fun hc => ?_, fun hc => ?_⟩
    · rw [← VerificationReport.ofRecords?_of_continuable hc]
      exact hone
    · rw [← VerificationReport.ofRecords?_of_continuable hc]
      exact hother

/-! ## Altered refunds -/

/-- Two refunds; the second one has lost its reason and is numbered five. -/
def Memory.alteredRefunds : Memory :=
  ⟨[Record.refund, { Record.refund with id := ⟨4⟩, sequenceNumber := 5, reason := none }], 5⟩

theorem altered_refunds_reported :
    let m := Memory.alteredRefunds
    let range : Option DateRange := some ⟨.epoch, .epoch⟩
    m.records.length < Nat.pow 2 63 ∧ (∀ d, range = some d → d.finish.before d.start = false) ∧
      ∃ (listed seen : List Record) (full brief : VerificationReport),
        listed.Perm (m.records.filter fun r => range.all (·.contains r.timestamp)) ∧
        listed.Pairwise (fun a b => a.sequenceNumber ≤ b.sequenceNumber) ∧
        EndsAtMismatch listed seen ∧ full.Tells listed ∧ brief.Tells seen ∧
        full.clean = brief.clean ∧
        ∀ storedAt size, 1 ≤ size → size ≤ Limits.standard.maxPageSize →
          pageCount listed.length size < pageLimit →
          (verifyLedger (Memory.ledger .standard storedAt) ⟨range, size, false⟩ .epoch .epoch).run m =
            (.ok (some full), m) ∧
          (verifyLedger (Memory.ledger .standard storedAt) ⟨range, size, true⟩ .epoch .epoch).run m =
            (.ok (some brief), m) := by
  intro m range
  have hm : m.records.length < Nat.pow 2 63 := by decide
  have hr : ∀ d, range = some d → d.finish.before d.start = false := by
    intro d hd
    rw [← Option.some.inj hd]
    rfl
  have hnext : ∀ r ∈ m.records, Text.i64.holds (r.sequenceNumber + 1) = true := by decide +kernel
  obtain ⟨listed, seen, full, brief, hperm, hsorted, hends, hfull, hbrief, hclean, hrun⟩ :=
    quiet_ledger_reported .standard hm hr .epoch .epoch
  have hlisted : ∀ r ∈ listed, Text.i64.holds (r.sequenceNumber + 1) = true := fun r hr =>
    hnext r (List.mem_filter.mp (hperm.subset hr)).1
  refine ⟨hm, hr, listed, seen, full, brief, hperm, hsorted, hends, hfull, hbrief, hclean,
    fun storedAt size h1 h2 hn => ?_⟩
  obtain ⟨hone, hother⟩ := hrun storedAt size h1 h2 hn
  exact ⟨hone fun r hr => hlisted r ((List.dropLast_sublist _).subset hr),
    hother fun r hr => hlisted r (hends.sublist.subset ((List.dropLast_sublist _).subset hr))⟩

/-- Two refunds under the greatest number there is. -/
def Memory.lastNumbers : Memory :=
  ⟨[{ Record.refund with sequenceNumber := 9223372036854775807 },
    { Record.refund with id := ⟨4⟩, sequenceNumber := 9223372036854775807 }], 5⟩

/-- A range that starts after its end has no report, and neither have two records under the greatest
number. -/
theorem reversed_range_and_last_numbers :
    (∃ e, (verifyLedger (Memory.ledger .standard .epoch) ⟨some ⟨.ofSeconds 1, .epoch⟩, 100, false⟩
      .epoch .epoch).run .alteredRefunds = (.error e, .alteredRefunds)) ∧
    (verifyLedger (Memory.ledger .standard .epoch) ⟨none, 100, false⟩ .epoch .epoch).run .lastNumbers =
      (.ok none, .lastNumbers) := by
  constructor
  · refine ⟨_, run_verifyLedger_refused .standard _ .epoch (by decide) (by decide) ?_ .epoch .epoch _⟩
    decide +kernel
  · have hrun := run_verifyLedger_memory .standard ⟨none, 100, false⟩ .epoch (m := .lastNumbers)
      (by decide) (by decide) rfl (by decide +kernel) (by decide +kernel) .epoch .epoch
    have hsort : RecordOrder.causal.sort Memory.lastNumbers.records = Memory.lastNumbers.records :=
      List.mergeSort_of_pairwise (by decide +kernel)
    have hadmitted : Memory.lastNumbers.admitted .everything = Memory.lastNumbers.records := rfl
    rw [VerifyOptions.filter, Option.map_none, Option.getD_none, hadmitted, hsort, examined_all] at hrun
    rw [hrun, VerificationReport.ofRecords?, if_neg (by decide +kernel)]

end EventLedger
