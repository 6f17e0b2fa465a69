import EventLedger.Proofs.Text.Numbers
import EventLedger.Settings

/-!
# Settings that are accepted

A number in the environment is accepted if its text writes one of its type, white space around it put
aside; one that is not set stays at its usual value. Between the numbers of a ledger there is one
condition.

* **`Environment.number_eq_ok_iff`**: the numbers that are accepted;
* **`Limits.read_eq_ok_iff`**: the limits that are accepted.
-/

namespace EventLedger

theorem bind_eq_ok_iff {ε α β : Type} {x : Except ε α} {f : α → Except ε β} {b : β} :
    (x >>= f) = .ok b ↔ ∃ a, x = .ok a ∧ f a = .ok b := by
  cases x with
  | error e => exact iff_of_false nofun fun ⟨a, h, _⟩ => nomatch h
  | ok a =>
    refine ⟨fun h => ⟨a, rfl, h⟩, ?_⟩
    rintro ⟨_, ⟨⟩, h⟩
    exact h

namespace Environment

variable {env : Environment} {name : String} {kind : NumberKind} {usual n : Nat}

theorem number_eq_ok_iff (h : kind.type.below = 0) :
    env.number name kind usual = .ok n ↔
      env.lookup name = none ∧ n = usual ∨
        ∃ raw, env.lookup name = some raw ∧ Text.Writes n (Text.trim raw) ∧ n ≤ kind.type.above := by
  rw [number, numberVia]
  cases hraw : env.lookup name with
  | none =>
    simp [Except.map, eq_comm]
  | some raw =>
    simp only [reduceCtorEq, false_and, false_or, Option.some.injEq, exists_eq_left']
    rw [← Text.readNat_eq_ok_iff h, Text.readNat]
    cases Text.readInteger kind.type (Text.trim raw).toList with
    | ok i => simp [Except.map]
    | error e => exact iff_of_false nofun nofun

end Environment

variable {env : Environment} {l : Limits}

/-- **The settings that are accepted.** -/
theorem Limits.read_eq_ok_iff :
    read env = .ok l ↔
      env.number "AUDIT_MAX_BATCH_SIZE" .size 100 = .ok l.maxBatchSize ∧
      env.number "AUDIT_DEFAULT_PAGE_SIZE" .u32 20 = .ok l.defaultPageSize ∧
      env.number "AUDIT_MAX_PAGE_SIZE" .u32 100 = .ok l.maxPageSize ∧
      env.number "AUDIT_STATS_WINDOW_DAYS" .u32 30 = .ok l.statsWindowDays ∧
      l.defaultPageSize ≤ l.maxPageSize := by
  simp only [read, bind_eq_ok_iff]
  constructor
  · rintro ⟨batch, hbatch, usual, husual, greatest, hgreatest, window, hwindow, h⟩
    split at h
    · cases h
    · rename_i hle
      obtain rfl := Except.ok.inj h
      exact ⟨hbatch, husual, hgreatest, hwindow, Nat.le_of_not_lt hle⟩
  · rintro ⟨hbatch, husual, hgreatest, hwindow, hle⟩
    exact ⟨_, hbatch, _, husual, _, hgreatest, _, hwindow, if_neg (Nat.not_lt.mpr hle)⟩

end EventLedger
