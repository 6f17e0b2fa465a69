import EventLedger.Address.Url
import EventLedger.Settings
import EventLedger.Text.Quoted

/-!
# Addresses of databases

The address of a database says where its server listens. Parameters in its query say the same and
more; what neither says, variables may say.

* `DatabaseFault`, `DatabaseFault.causes`: why a text is no address of a database;
* `Endpoint`: where a server listens;
* `Whereabouts`: what has been said about the server;
* `Endpoint.read`: the endpoint that an address names.
-/

namespace EventLedger

/-- Why a text is no address of a database. -/
inductive DatabaseFault where
  | address (fault : AddressFault)
  /-- A part of it does not stand for characters. -/
  | characters (fault : Utf8.Fault)
  | number (error : Text.IntegerError)
  /-- A parameter should be a numeric address. -/
  | numericAddress
  | sslMode (value : String)
  deriving DecidableEq, Repr

/-- The fault and the causes behind it, in words. -/
def DatabaseFault.causes : DatabaseFault → List String
  | .address f => [f.message]
  | .characters f => [f.message]
  | .number e => [e.message]
  | .numericAddress => ["invalid IP address syntax"]
  | .sslMode value =>
    let problem := "unknown value " ++ Text.quoted value ++ " for `ssl_mode`"
    ["error with configuration: " ++ problem, problem]

/-- Where a server listens. -/
inductive Endpoint where
  /-- At a path in the file system. -/
  | socket (path : String)
  | host (name : String)
  deriving DecidableEq, Repr

/-- What has been said about the server. -/
structure Whereabouts where
  /-- The directory of its socket, which goes before all hosts. -/
  directory : Option String
  /-- It may be a directory, too. -/
  host : String
  port : Nat
  deriving DecidableEq, Repr

namespace Whereabouts

/-- What variables say, or else the machine itself. -/
def ofVariables (env : Environment) : Whereabouts where
  directory := none
  host := ((env.lookup "PGHOSTADDR").or (env.lookup "PGHOST")).getD "localhost"
  port :=
    match (env.lookup "PGPORT").map fun value => Text.readInteger Text.u16 value.toList with
    | some (.ok port) => port.toNat
    | _ => 5432

/-- A part that names a directory or a host. -/
def said (w : Whereabouts) (name : String) : Whereabouts :=
  if name.toList.head? = some '/' then { w with directory := some name }
  else { w with host := name }

/-- What the host of an address says. It names a directory if it stands for one. -/
def saidByHost (w : Whereabouts) : UrlHost → Except DatabaseFault Whereabouts
  | .absent => .ok w
  | .ipv4 address => .ok { w with host := Ip.dotted address }
  | .ipv6 groups => .ok { w with host := String.ofList groups }
  | .named name =>
    if (Percent.bytes name).head? = some 0x2F then
      match Percent.read name with
      | .ok path => .ok (w.said (String.ofList path))
      | .error f => .error (.characters f)
    else .ok { w with host := String.ofList name }

/-- A host without the brackets around it. -/
def unbracketed (host : String) : String :=
  let isBracket (c : Char) : Bool := c == '[' || c == ']'
  String.ofList ((host.toList.dropWhile isBracket).reverse.dropWhile isBracket).reverse

/-- The endpoint; the name of a socket ends with the port. -/
def endpoint (w : Whereabouts) : Endpoint :=
  let directory := w.directory.or (if w.host.toList.head? = some '/' then some w.host else none)
  match directory with
  | some path => .socket (path ++ "/.s.PGSQL." ++ toString w.port)
  | none => .host (unbracketed w.host)

end Whereabouts

/-- The ways to protect a connection. -/
def sslModes : List String :=
  ["disable", "allow", "prefer", "require", "verify-ca", "verify-full"]

/-- A number that has to be of some type. -/
def readNumber (type : Text.IntegerType) (value : String) : Except DatabaseFault Nat :=
  match Text.readInteger type value.toList with
  | .ok n => .ok n.toNat
  | .error e => .error (.number e)

/-- What a parameter says, in addition to what has been said; unknown ones say nothing. -/
def Whereabouts.parameter (w : Whereabouts) : String × String → Except DatabaseFault Whereabouts
  | (name, value) =>
    if name = "host" then .ok (w.said value)
    else if name = "hostaddr" then
      if Ip.isAddress value.toList then .ok { w with host := value } else .error .numericAddress
    else if name = "port" then (readNumber Text.u16 value).map fun port => { w with port }
    else if name = "statement-cache-capacity" then (readNumber Text.u64 value).map fun _ => w
    else if name = "sslmode" ∨ name = "ssl-mode" then
      if sslModes.contains (value.map Char.toLower) then .ok w else .error (.sslMode value)
    else .ok w

/-- A part of an address that has to stand for characters. -/
def readablePart (cs : List Char) : Except DatabaseFault Unit :=
  match Percent.read cs with
  | .ok _ => .ok ()
  | .error f => .error (.characters f)

/-- The endpoint that an address names. Host, port, user, password, path and parameters are looked
at in this order. -/
def Endpoint.read (env : Environment) (address : String) : Except DatabaseFault Endpoint := do
  let url ← (Url.read address).mapError .address
  let w ← (Whereabouts.ofVariables env).saidByHost url.host
  let w := { w with port := url.port.getD w.port }
  readablePart url.user
  readablePart url.password
  readablePart (url.path.dropWhile (· = '/'))
  let w ← (Percent.pairs url.query).foldlM Whereabouts.parameter w
  pure w.endpoint

end EventLedger
