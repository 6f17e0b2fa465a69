import EventLedger.Verification.CommandLine
import Std.Time.DateTime.Timestamp

/-!
# The verifier as a program

Arguments, environment and clock go in; report, message and exit code come out. The program has no
network, so that every database it is pointed to is out of reach.
-/

namespace EventLedger

/-- The variables that settings are read from, and those that say where a database is. -/
def settingNames : List String := [
  "AUDIT_DEFAULT_PAGE_SIZE", "AUDIT_MAX_BATCH_SIZE", "AUDIT_MAX_PAGE_SIZE",
  "AUDIT_STATS_WINDOW_DAYS", "DATABASE_URL", "DB_ACQUIRE_TIMEOUT_SECS", "DB_MAX_CONNECTIONS",
  "DB_MIN_CONNECTIONS", "PGHOST", "PGHOSTADDR", "PGPORT"]

/-- The options in short. -/
def usageText : String :=
  "Usage: ledger-verify [--from TIME] [--to TIME] [--page-size N] [--fail-fast] [--report FILE] " ++
    "[--migrate] [--log-format text|json]"

/-- The instant so many nanoseconds after 1970-01-01. -/
def Instant.ofNanoseconds (n : Int) : Instant :=
  ⟨n / 1000000000, (n % 1000000000).toNat, by omega⟩

/-- The variables of the process that settings are read from. -/
def readEnvironment : IO Environment :=
  settingNames.filterMapM fun name => do
    let value ← IO.getEnv name
    pure (value.map (name, ·))

/-- The instant that the clock shows. -/
def readClock : IO Instant := do
  let t ← Std.Time.Timestamp.now
  pure (.ofNanoseconds t.toNanosecondsSinceUnixEpoch.toInt)

/-- The message of an exit, and the exit code. -/
def Exit.announce (e : Exit) : IO UInt32 := do
  match e with
  | .failure chain _ => IO.eprintln (errorText chain)
  | .misused => IO.eprintln usageText
  | .help => IO.println usageText
  | .success _ _ | .aborted => pure ()
  pure e.code.toUInt32

/-- The report written, unless that fails. -/
def Exit.writeDocument (e : Exit) : IO Exit := do
  match e.document with
  | none => pure e
  | some (path, text) =>
    try
      IO.FS.writeFile path text
      pure e
    catch problem =>
      pure (.failure ["failed to write report to " ++ path, toString problem] none)

/-- The program: verifies the ledger that the environment names. -/
def verifyProgram (words : List String) : IO UInt32 := do
  let env ← readEnvironment
  let now ← readClock
  let connect (database : DatabaseSettings) : Id (Except ConnectError (Store Id)) :=
    pure (.error (database.offline env))
  let ending ← (VerifyCommand.run connect words env now).run.writeDocument
  ending.announce

end EventLedger

/-- Runs the verifier. -/
def main (words : List String) : IO UInt32 := EventLedger.verifyProgram words
