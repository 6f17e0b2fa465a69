import EventLedger.Address.Host

/-!
# Addresses of resources

An address is read as browsers read it: blanks and controls around it, tabs and line ends in it do
not count. Some schemes belong to the web; their addresses always have a host, and backslashes count
as slashes in them.

* `Url`: an address by its parts, which still have their escapes;
* `Scheme`: what a scheme means for reading;
* `Url.takeUser`, `Url.takeHost`, `Url.takePort`: the parts in front of the path;
* `Url.resolved`: a path without steps up and steps in place;
* `Url.read`: the reader.
-/

namespace EventLedger

/-- An address. -/
structure Url where
  scheme : List Char
  user : List Char
  password : List Char
  host : UrlHost
  /-- The usual port of a scheme is left out. -/
  port : Option Nat
  path : List Char
  query : List Char
  deriving DecidableEq, Repr

/-- What a scheme means for reading. -/
inductive Scheme where
  | web
  | file
  | other
  deriving DecidableEq, Repr

/-- The kind of a scheme, written in small letters. -/
def Scheme.ofName (name : List Char) : Scheme :=
  let name := String.ofList name
  if name = "file" then .file
  else if ["http", "https", "ws", "wss", "ftp"].contains name then .web
  else .other

namespace Scheme

/-- The character counts as a slash. -/
def isSlash (s : Scheme) (c : Char) : Bool := c == '/' || (s != .other && c == '\\')

/-- The character ends what stands in front of the path. -/
def endsAuthority (s : Scheme) (c : Char) : Bool := s.isSlash c || c == '?' || c == '#'

end Scheme

namespace Url

/-! ## Scheme -/

/-- A text without what does not count in addresses. -/
def cleaned (cs : List Char) : List Char :=
  let unseen (c : Char) : Bool := c.toNat ≤ 0x20
  let inner := ((cs.dropWhile unseen).reverse.dropWhile unseen).reverse
  inner.filter fun c => c != '\t' && c != '\n' && c != '\r'

/-- The scheme of an address in small letters, and what stands behind its colon. -/
def takeScheme (cs : List Char) : Option (List Char × List Char) :=
  let name := cs.takeWhile fun c => c.isAlphanum || c == '+' || c == '-' || c == '.'
  match cs.drop name.length with
  | ':' :: rest => if name.head?.any Char.isAlpha then some (name.map Char.toLower, rest) else none
  | _ => none

/-! ## User, host and port -/

/-- Characters in front of the last `@`, if there is one. -/
def beforeLastAt (cs : List Char) : Option (List Char) :=
  match cs.reverse.dropWhile (· ≠ '@') with
  | [] => none
  | _ :: front => some front.reverse

/-- User and password in front of a host, and what stands behind them. -/
def takeUser (s : Scheme) (cs : List Char) :
    Except AddressFault ((List Char × List Char) × List Char) :=
  match beforeLastAt (cs.takeWhile fun c => !s.endsAuthority c) with
  | none => .ok (([], []), cs)
  | some info =>
    let rest := cs.drop (info.length + 1)
    if info.isEmpty && rest.head?.any s.endsAuthority then .error .emptyHost
    else
      let user := info.takeWhile (· ≠ ':')
      .ok ((user, info.drop (user.length + 1)), rest)

/-- The text of a host, up to a colon outside brackets, and what stands behind it. -/
def takeHost (s : Scheme) : (bracket : Bool) → List Char → List Char × List Char
  | _, [] => ([], [])
  | bracket, c :: cs =>
    if s.endsAuthority c || (c == ':' && !bracket) then ([], c :: cs)
    else
      let (text, rest) := takeHost s (c == '[' || (bracket && c != ']')) cs
      (c :: text, rest)

/-- A port by its digits so far, up to a slash, a query or a fragment. -/
def takePort : (value : Option Nat) → List Char → Except AddressFault (Option Nat × List Char)
  | value, [] => .ok (value, [])
  | value, c :: cs =>
    match Text.digit? c with
    | some d =>
      let next := 10 * value.getD 0 + d
      if next ≤ 65535 then takePort (some next) cs else .error .port
    | none => if Scheme.web.endsAuthority c then .ok (value, c :: cs) else .error .port

/-- The port that a scheme of the web has if none is said. -/
def usualPort? (scheme : List Char) : Option Nat :=
  List.lookup (String.ofList scheme)
    [("http", 80), ("ws", 80), ("https", 443), ("wss", 443), ("ftp", 21)]

/-! ## Path and query -/

/-- A segment that stands for the place it is at. -/
def isHere (segment : List Char) : Bool :=
  [".", "%2e"].contains (String.ofList (segment.map Char.toLower))

/-- A segment that stands for the place above. -/
def isAbove (segment : List Char) : Bool :=
  ["..", ".%2e", "%2e.", "%2e%2e"].contains (String.ofList (segment.map Char.toLower))

/-- A letter with a colon or a bar, which names a drive. -/
def isDrive (segment : List Char) : Bool :=
  match segment with
  | [letter, mark] => letter.isAlpha && (mark == ':' || mark == '|')
  | _ => false

/-- Segments, the last in front, without the last one; in a file, a drive stays. -/
def up (s : Scheme) : List (List Char) → List (List Char)
  | [] => []
  | [segment] => if s = .file ∧ isDrive segment then [segment] else []
  | _ :: rest => rest

/-- Segments taken one by one behind those `done`, the last of which stands in front. A step at the
end leaves an empty segment. -/
def resolved (s : Scheme) (done : List (List Char)) : List (List Char) → List (List Char)
  | [] => done.reverse
  | segment :: rest =>
    if isAbove segment then
      resolved s (if rest.isEmpty then [] :: up s done else up s done) rest
    else if isHere segment then resolved s (if rest.isEmpty then [] :: done else done) rest
    else resolved s (segment :: done) rest

/-- The path at the beginning of a text. -/
def pathOf (s : Scheme) (cs : List Char) : List Char :=
  let text := (cs.takeWhile fun c => c != '?' && c != '#').map fun c =>
    if s.isSlash c then '/' else c
  match text with
  | [] => if s = .other then [] else ['/']
  | '/' :: segments => '/' :: ['/'].intercalate (resolved s [] (Text.segments '/' segments))
  | segments => '/' :: ['/'].intercalate (resolved s [] (Text.segments '/' segments))

/-- The query of a text, behind its first question mark and up to a fragment. -/
def queryOf (cs : List Char) : List Char :=
  ((cs.takeWhile (· ≠ '#')).dropWhile (· ≠ '?')).drop 1

/-! ## The reader -/

/-- An address with a host, behind its two slashes. -/
def readHosted (s : Scheme) (scheme cs : List Char) : Except AddressFault Url := do
  let ((user, password), cs) ← takeUser s cs
  let (text, cs) := takeHost s false cs
  let host ← if s = .web then
      (if text.isEmpty then .error .emptyHost else UrlHost.domain? text)
    else UrlHost.opaque? text
  let lacksHost := host = .absent
  let (port, cs) ← match cs with
    | ':' :: rest => if lacksHost then .error .emptyHost else takePort none rest
    | _ => .ok (none, cs)
  if lacksHost ∧ ¬(user.isEmpty ∧ password.isEmpty) then .error .emptyHost
  else
    let port := port.filter fun n => usualPort? scheme != some n
    .ok ⟨scheme, user, password, host, port, pathOf s cs, queryOf cs⟩

/-- The host of a file: a drive and the machine itself are none. -/
def fileHost (text : List Char) : Except AddressFault UrlHost := do
  if text.isEmpty || isDrive text then .ok .absent
  else
    let host ← UrlHost.domain? text
    .ok (if host = .named "localhost".toList then .absent else host)

/-- The address of a file, behind its colon. -/
def readFile (cs : List Char) : Except AddressFault Url := do
  let file (host : UrlHost) (cs : List Char) : Url :=
    ⟨"file".toList, [], [], host, none, pathOf .file cs, queryOf cs⟩
  match cs with
  | a :: b :: rest =>
    if Scheme.file.isSlash a && Scheme.file.isSlash b then
      let text := rest.takeWhile fun c => !Scheme.file.endsAuthority c
      let host ← fileHost text
      .ok (file host (if isDrive text then rest else rest.drop text.length))
    else .ok (file .absent cs)
  | _ => .ok (file .absent cs)

/-- The address that a text is. -/
def read (s : String) : Except AddressFault Url :=
  match takeScheme (cleaned s.toList) with
  | none => .error .noScheme
  | some (name, cs) =>
    match Scheme.ofName name with
    | .web => readHosted .web name (cs.dropWhile Scheme.web.isSlash)
    | .file => readFile cs
    | .other =>
      match cs with
      | '/' :: '/' :: cs => readHosted .other name cs
      | '/' :: _ => .ok ⟨name, [], [], .absent, none, pathOf .other cs, queryOf cs⟩
      | _ =>
        .ok ⟨name, [], [], .absent, none, cs.takeWhile fun c => c != '?' && c != '#', queryOf cs⟩

end Url

end EventLedger
