import EventLedger.Address.Database

/-!
# Connecting to the database

* `ConnectError`, `ConnectError.chain`: why the database was not reached, and the causes;
* `DatabaseSettings.refusal`: what decides about a connection before the network does;
* `DatabaseSettings.offline`: the error of a machine without a network.
-/

namespace EventLedger

/-- Why the database was not reached. -/
inductive ConnectError where
  /-- The network refused its service. -/
  | network (problem : String)
  /-- No connection came in time. -/
  | poolTimedOut
  /-- The address is none. -/
  | configuration (fault : DatabaseFault)
  /-- The clock does not reach the end of the waiting time. -/
  | deadlineBeyondClock
  /-- There is no room for a connection. -/
  | noCapacity
  deriving DecidableEq, Repr

namespace ConnectError

/-- The error and its causes, in words. -/
def chain : ConnectError → List String
  | .network problem => ["error communicating with database: " ++ problem, problem]
  | .poolTimedOut => ["pool timed out while waiting for an open connection"]
  | .configuration fault =>
    ("error with configuration: " ++ fault.causes.headD "") :: fault.causes
  | .deadlineBeyondClock => ["overflow when adding duration to instant"]
  | .noCapacity => ["capacity must be non-zero"]

/-- The error breaks the program off. -/
def isFatal : ConnectError → Bool
  | .deadlineBeyondClock | .noCapacity => true
  | _ => false

end ConnectError

/-- The seconds that the clock still counts: it has 63 bits and has run for some days. -/
def clockLimit : Nat := Nat.pow 2 63 - 1000000

/-- The error before the network is asked, or the endpoint to be reached. -/
def DatabaseSettings.refusal (d : DatabaseSettings) (env : Environment) :
    Except ConnectError Endpoint := do
  let endpoint ← (Endpoint.read env d.url).mapError .configuration
  if clockLimit ≤ d.acquireTimeout then .error .deadlineBeyondClock
  else if d.maxConnections = 0 then .error .noCapacity
  else if d.acquireTimeout = 0 then .error .poolTimedOut
  else .ok endpoint

/-- The paths of sockets have fewer bytes. -/
def socketPathLimit : Nat := 108

/-- What goes wrong with an endpoint on a machine without a network, where no server listens. -/
def Endpoint.problem : Endpoint → String
  | .socket path =>
    if path.toList.contains '\x00' then "paths must not contain interior null bytes"
    else if socketPathLimit ≤ path.utf8ByteSize then "path must be shorter than SUN_LEN"
    else "No such file or directory (os error 2)"
  | .host name =>
    if name.toList.contains '\x00' then "file name contained an unexpected NUL byte"
    else if name = "localhost" || Ip.needsNoLookup name.toList then
      "Network is unreachable (os error 101)"
    else "failed to lookup address information: Temporary failure in name resolution"

/-- The connection refused on a machine without a network. -/
def DatabaseSettings.offline (d : DatabaseSettings) (env : Environment) : ConnectError :=
  match d.refusal env with
  | .ok endpoint => .network endpoint.problem
  | .error e => e

end EventLedger
