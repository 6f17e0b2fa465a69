import EventLedger.Audit.StorageError
import EventLedger.Json.Printer

/-!
# Errors of the database driver

* `DriverError`: what the driver of the database reports;
* `DriverError.message`: its wording;
* `DriverError.storageError`: the failure of storage it amounts to.
-/

namespace EventLedger.Sql

/-- The rules of a table that a statement may break. -/
inductive BrokenRule where
  | unique
  | foreignKey
  | notNull
  | check
  /-- None of them. -/
  | other
  deriving DecidableEq, Repr

/-- What the driver of the database reports. -/
inductive DriverError where
  | io (problem : String)
  | tls (problem : String)
  | poolTimedOut
  | poolClosed
  | workerCrashed
  | rowNotFound
  | columnNotFound (name : String)
  | typeNotFound (name : String)
  | columnIndexOutOfBounds (length index : Nat)
  | columnDecode (column problem : String)
  | decode (problem : String)
  | encode (problem : String)
  | protocol (problem : String)
  | configuration (problem : String)
  /-- The server refused a statement; it may name the constraint that was broken. -/
  | database (rule : BrokenRule) (constraint : Option String) (problem : String)
  deriving DecidableEq, Repr

namespace DriverError

/-- The error in words. -/
def message : DriverError → String
  | io p => "error communicating with database: " ++ p
  | tls p => "error occurred while attempting to establish a TLS connection: " ++ p
  | poolTimedOut => "pool timed out while waiting for an open connection"
  | poolClosed => "attempted to acquire a connection on a closed pool"
  | workerCrashed => "attempted to communicate with a crashed background worker"
  | rowNotFound => "no rows returned by a query that expected to return at least one row"
  | columnNotFound name => "no column found for name: " ++ name
  | typeNotFound name => "type named " ++ name ++ " not found"
  | columnIndexOutOfBounds length index =>
    "column index out of bounds: the len is " ++ toString length ++ ", but the index is " ++
      toString index
  | columnDecode column p =>
    "error occurred while decoding column " ++ Json.quoted column ++ ": " ++ p
  | decode p => "error occurred while decoding: " ++ p
  | encode p => "error occurred while encoding a value: " ++ p
  | protocol p => "encountered unexpected or invalid data: " ++ p
  | configuration p => "error with configuration: " ++ p
  | database _ _ p => "error returned from database: " ++ p

/-- The kind of storage failure. -/
def kind : DriverError → StorageErrorKind
  | io _ => .connection
  | tls _ => .connection
  | poolTimedOut => .connection
  | poolClosed => .unavailable
  | workerCrashed => .unavailable
  | database rule constraint _ =>
    if constraint.isSome ∨ rule ≠ .other then .constraint else .query
  | columnDecode _ _ => .decode
  | decode _ => .decode
  | columnNotFound _ => .decode
  | typeNotFound _ => .decode
  | rowNotFound => .query
  | columnIndexOutOfBounds _ _ => .query
  | encode _ => .query
  | protocol _ => .query
  | configuration _ => .query

/-- The failure of storage. -/
def storageError (e : DriverError) : StorageError := ⟨e.kind, e.message⟩

end DriverError

end EventLedger.Sql
