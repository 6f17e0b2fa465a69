import EventLedger.Audit.Ledger
import EventLedger.Verification.Report

/-!
# Walking through a ledger

* `VerifyOptions`: what is verified;
* `checkPage?`: the records of a page, up to the first altered one if that is asked for;
* `verifyLedger`: all pages in the order of storing.
-/

namespace EventLedger

/-- What is verified. -/
structure VerifyOptions where
  range : Option DateRange
  pageSize : Nat
  /-- The first altered record ends the verification. -/
  failFast : Bool

/-- The size of a page where nothing else is said. -/
def VerifyOptions.defaultPageSize : Nat := 100

/-- A page could not be read. -/
structure VerifyError where
  page : Nat
  cause : LedgerError

namespace VerifyError

/-- The error in words, without its cause. -/
def message (e : VerifyError) : String := "failed to read ledger page " ++ toString e.page

/-- The error and its cause. -/
def chain (e : VerifyError) : List String := [e.message, e.cause.message]

end VerifyError

/-- The records of a page checked in order, and whether the verification is to end here. Nothing if
a check breaks off. -/
def checkPage? (failFast : Bool) (report : VerificationReport) :
    List Record → Option (VerificationReport × Bool)
  | [] => some (report, false)
  | r :: rest => do
    let report ← report.check? r
    if failFast && !r.intact then pure (report, true) else checkPage? failFast report rest

/-- Page numbers are below it: they are unsigned numbers of 32 bits. -/
def pageLimit : Nat := Nat.pow 2 32

variable {m : Type → Type} [Monad m]

/-- The pages from `page` on checked, `left` of them at most. Nothing if the walk breaks off: at the
place of a page, at a check, or behind the last page number. -/
def walkFrom (ledger : Ledger m) (options : VerifyOptions) :
    (left page : Nat) → VerificationReport → ExceptT VerifyError m (Option VerificationReport)
  | 0, _, _ => pure none
  | left + 1, page, report => do
    let filter := (options.range.map Filter.within).getD .everything
    match ← (ledger.query filter ⟨page, options.pageSize⟩ .causal).adapt (⟨page, ·⟩) with
    | none => pure none
    | some found =>
      match checkPage? options.failFast report found.items with
      | none => pure none
      | some (report, ended) =>
        if ended || !found.info.hasNextPage then pure (some report)
        else walkFrom ledger options left (page + 1) report

/-- All records of a ledger, or of a range of time, checked in the order of storing. Nothing if the
walk breaks off. -/
def verifyLedger (ledger : Ledger m) (options : VerifyOptions) (startedAt finishedAt : Instant) :
    ExceptT VerifyError m (Option VerificationReport) := do
  let report? ← walkFrom ledger options (pageLimit - 1) 1 (.start startedAt)
  pure (report?.map fun report => { report with finishedAt := some finishedAt })

end EventLedger
