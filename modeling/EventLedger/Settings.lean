import EventLedger.Audit.Ledger
import EventLedger.Dispatch.Dispatcher

/-!
# Settings from the environment

* `Environment`: variables by name;
* `SettingsError`: a variable is missing or has no fitting value;
* `DispatcherSettings.read`, `Limits.read`, `DatabaseSettings.read`: the settings of the parts. A
  variable that is not set leaves the usual value.
-/

namespace EventLedger

/-- Variables with their values. -/
abbrev Environment := List (String × String)

/-- Why settings cannot be used. -/
inductive SettingsError where
  | missing (name : String)
  | invalid (name expected value : String)
  /-- The usual page is greater than any page may be. -/
  | pageSizeBounds (usual greatest : Nat)
  deriving DecidableEq, Repr

/-- The error in words. -/
def SettingsError.message : SettingsError → String
  | .missing name => name ++ " is required"
  | .invalid name expected value =>
    name ++ " must be a valid " ++ expected ++ ", got '" ++ value ++ "'"
  | .pageSizeBounds usual greatest =>
    "AUDIT_DEFAULT_PAGE_SIZE (" ++ toString usual ++ ") exceeds AUDIT_MAX_PAGE_SIZE (" ++
      toString greatest ++ ")"

/-- A type of numbers with its name in messages. -/
structure NumberKind where
  name : String
  type : Text.IntegerType

namespace NumberKind

/-- Unsigned, 32 bits. -/
def u32 : NumberKind := ⟨"u32", Text.u32⟩

/-- Unsigned, 64 bits. -/
def u64 : NumberKind := ⟨"u64", Text.u64⟩

/-- A size in memory, of 64 bits. -/
def size : NumberKind := ⟨"usize", Text.u64⟩

/-- Signed, 32 bits. -/
def i32 : NumberKind := ⟨"i32", Text.i32⟩

end NumberKind

namespace Environment

/-- The number in a variable, seen through `view`, or `usual` if the variable is not set. -/
def numberVia (env : Environment) (view : String → String) (name : String) (kind : NumberKind)
    (usual : Int) : Except SettingsError Int :=
  match env.lookup name with
  | none => .ok usual
  | some raw =>
    match Text.readInteger kind.type (view raw).toList with
    | .ok n => .ok n
    | .error _ => .error (.invalid name kind.name raw)

/-- The natural number in a variable, white space around it put aside. -/
def number (env : Environment) (name : String) (kind : NumberKind) (usual : Nat) :
    Except SettingsError Nat :=
  (env.numberVia Text.trim name kind usual).map Int.toNat

end Environment

/-- The settings of the dispatcher. Its numbers must not have white space around them. -/
def DispatcherSettings.read (env : Environment) : Except SettingsError DispatcherSettings := do
  let usual := DispatcherSettings.standard
  let timeout ← env.numberVia id "EVENT_HANDLER_TIMEOUT_MS" .u64 usual.handlerTimeout
  let priority ← env.numberVia id "EVENT_DEFAULT_PRIORITY" .i32 usual.defaultPriority
  pure ⟨timeout.toNat, priority⟩

/-- The limits of the ledger; the usual page must not be greater than the greatest. -/
def Limits.read (env : Environment) : Except SettingsError Limits := do
  let usual := Limits.standard
  let maxBatchSize ← env.number "AUDIT_MAX_BATCH_SIZE" .size usual.maxBatchSize
  let defaultPageSize ← env.number "AUDIT_DEFAULT_PAGE_SIZE" .u32 usual.defaultPageSize
  let maxPageSize ← env.number "AUDIT_MAX_PAGE_SIZE" .u32 usual.maxPageSize
  let statsWindowDays ← env.number "AUDIT_STATS_WINDOW_DAYS" .u32 usual.statsWindowDays
  if maxPageSize < defaultPageSize then .error (.pageSizeBounds defaultPageSize maxPageSize)
  else .ok { maxBatchSize, defaultPageSize, maxPageSize, statsWindowDays }

/-- How the database is reached. -/
structure DatabaseSettings where
  url : String
  maxConnections : Nat
  minConnections : Nat
  /-- Seconds until the attempt to get a connection is given up. -/
  acquireTimeout : Nat
  deriving DecidableEq, Repr

/-- The settings of the database; its address has to be given. -/
def DatabaseSettings.read (env : Environment) : Except SettingsError DatabaseSettings := do
  match env.lookup "DATABASE_URL" with
  | none => .error (.missing "DATABASE_URL")
  | some url => do
    let maxConnections ← env.number "DB_MAX_CONNECTIONS" .u32 10
    let minConnections ← env.number "DB_MIN_CONNECTIONS" .u32 0
    let acquireTimeout ← env.number "DB_ACQUIRE_TIMEOUT_SECS" .u64 3
    pure { url, maxConnections, minConnections, acquireTimeout }

end EventLedger
