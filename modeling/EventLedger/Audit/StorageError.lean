import EventLedger.Audit.Violation

/-!
# Failures of storage and ledger

* `StorageErrorKind`, `StorageError`: what went wrong in the store;
* `StorageError.transient`: trying again may help;
* `LedgerError`: an operation of the ledger was refused or failed.
-/

namespace EventLedger

/-- The kinds of storage failures. -/
inductive StorageErrorKind where
  /-- The store could not be reached. -/
  | connection
  /-- The store is there and refuses its service. -/
  | unavailable
  /-- A rule of the store is broken, such as a repeated id. -/
  | constraint
  /-- A statement failed for another reason. -/
  | query
  /-- A row does not denote a record. -/
  | decode
  deriving DecidableEq, Repr

namespace StorageErrorKind

/-- The name of a kind. -/
def word : StorageErrorKind → String
  | connection => "connection"
  | unavailable => "unavailable"
  | constraint => "constraint"
  | query => "query"
  | decode => "decode"

/-- The kind of a name. -/
def ofWord? (s : String) : Option StorageErrorKind :=
  [connection, unavailable, constraint, query, decode].find? fun k => k.word == s

/-- The name of a kind in messages. -/
def title : StorageErrorKind → String
  | connection => "Connection"
  | unavailable => "Unavailable"
  | constraint => "Constraint"
  | query => "Query"
  | decode => "Decode"

end StorageErrorKind

/-- A failure of the store. -/
structure StorageError where
  kind : StorageErrorKind
  detail : String
  deriving DecidableEq, Repr

namespace StorageError

/-- The failure in words. -/
def message (e : StorageError) : String :=
  "repository error (" ++ e.kind.title ++ "): " ++ e.detail

/-- The same operation may succeed at another time. -/
def transient (e : StorageError) : Bool :=
  match e.kind with
  | .connection | .unavailable => true
  | _ => false

end StorageError

/-- Why an operation of the ledger did not succeed. -/
inductive LedgerError where
  /-- It was refused before anything was read or written. -/
  | invalid (violations : List Violation)
  /-- The store failed. -/
  | storage (error : StorageError)

namespace LedgerError

/-- The error in words. -/
def message : LedgerError → String
  | invalid vs => violationsMessage vs
  | storage e => e.message

/-- The same operation may succeed at another time. -/
def transient : LedgerError → Bool
  | invalid _ => false
  | storage e => e.transient

/-- A rule of the store was broken. -/
def isConstraint : LedgerError → Bool
  | storage e => e.kind == .constraint
  | invalid _ => false

end LedgerError

end EventLedger
