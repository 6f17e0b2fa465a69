import EventLedger.Settings
import EventLedger.Verification.Connecting
import EventLedger.Verification.Walk

/-!
# The command line of the verifier

* `Arguments`, `Arguments.read`: the options of the command line;
* `Arguments.range`: the range they stand for;
* `Exit`: how the program ends; `VerifyCommand.run`: the program.
-/

namespace EventLedger

/-! ## Arguments -/

/-- How messages are written. -/
inductive LogFormat where
  | text
  | json
  deriving DecidableEq, Repr

/-- The options of the command line; those not given are absent. -/
structure Arguments where
  start : Option Instant := none
  finish : Option Instant := none
  pageSize : Option Nat := none
  failFast : Bool := false
  /-- The file that the report is written to. -/
  report : Option String := none
  migrate : Bool := false
  logFormat : Option LogFormat := none

/-- What the arguments ask for. -/
inductive ArgumentsResult where
  | verify (arguments : Arguments)
  | help
  /-- An argument is unknown, repeated, without value or with a wrong one. -/
  | misused

/-- An option that takes a value. -/
inductive ValueOption where
  | start
  | finish
  | pageSize
  | report
  | logFormat
  deriving DecidableEq, Repr

/-- An option that takes none. -/
inductive FlagOption where
  | failFast
  | migrate
  deriving DecidableEq, Repr

/-- The option of a name, with a value. -/
def ValueOption.ofName? (name : String) : Option ValueOption :=
  if name = "from" then some .start
  else if name = "to" then some .finish
  else if name = "page-size" then some .pageSize
  else if name = "report" then some .report
  else if name = "log-format" then some .logFormat
  else none

/-- The option of a name, without a value. -/
def FlagOption.ofName? (name : String) : Option FlagOption :=
  if name = "fail-fast" then some .failFast
  else if name = "migrate" then some .migrate
  else none

namespace Arguments

/-- A value put in place, if it was absent before. -/
def once {α : Type} (old : Option α) (value : Option α) (put : α → Arguments) : Option Arguments :=
  if old.isSome then none else value.map put

/-- The instant of a text. -/
def instant? (s : String) : Option Instant := (Instant.read s).toOption

/-- A size of a page: a signed number of 64 bits that is in the range of an unsigned one of 32. -/
def size? (s : String) : Option Nat :=
  match Text.readInteger Text.i64 s.toList with
  | .ok n => if Text.u32.holds n then some n.toNat else none
  | .error _ => none

/-- The path of a text, which must not be empty. -/
def path? (s : String) : Option String := if s.isEmpty then none else some s

/-- The format of a name. -/
def logFormat? (s : String) : Option LogFormat :=
  if s = "text" then some .text else if s = "json" then some .json else none

/-- An option given with a value. -/
def setValue (a : Arguments) (option : ValueOption) (value : String) : Option Arguments :=
  match option with
  | .start => once a.start (instant? value) fun v => { a with start := some v }
  | .finish => once a.finish (instant? value) fun v => { a with finish := some v }
  | .pageSize => once a.pageSize (size? value) fun v => { a with pageSize := some v }
  | .report => once a.report (path? value) fun v => { a with report := some v }
  | .logFormat => once a.logFormat (logFormat? value) fun v => { a with logFormat := some v }

/-- An option given without a value. -/
def setFlag (a : Arguments) : FlagOption → Option Arguments
  | .failFast => if a.failFast then none else some { a with failFast := true }
  | .migrate => if a.migrate then none else some { a with migrate := true }

/-- A word that starts an option and cannot be a value. -/
def startsOption (word : List Char) : Bool :=
  match word with
  | '-' :: _ :: _ => true
  | _ => false

/-- What a word is. -/
inductive Word where
  /-- An option `--name`, perhaps with `=value` behind it. -/
  | option (name : String) (value : Option String)
  | shortHelp
  /-- The end of all options. -/
  | ending
  | other

/-- The kind of a word. -/
def classify (word : String) : Word :=
  match word.toList with
  | ['-', '-'] => .ending
  | '-' :: '-' :: cs =>
    let name := cs.takeWhile (· ≠ '=')
    let value := (cs.drop name.length).tail?
    .option (String.ofList name) (value.map String.ofList)
  | '-' :: 'h' :: _ => .shortHelp
  | _ => .other

/-- The words read from the left. An option that waits for its value is `pending`. -/
def readFrom (a : Arguments) : (pending : Option ValueOption) → List String → ArgumentsResult
  | some _, [] => .misused
  | none, [] => .verify a
  | some option, word :: rest =>
    if startsOption word.toList then .misused
    else
      match a.setValue option word with
      | some a => readFrom a none rest
      | none => .misused
  | none, word :: rest =>
    match classify word with
    | .shortHelp => .help
    | .ending => if rest.isEmpty then .verify a else .misused
    | .other => .misused
    | .option name value =>
      if name = "help" then (if value.isSome then .misused else .help)
      else
        match ValueOption.ofName? name, FlagOption.ofName? name, value with
        | some option, _, some v =>
          match a.setValue option v with
          | some a => readFrom a none rest
          | none => .misused
        | some option, _, none => readFrom a (some option) rest
        | none, some flag, none =>
          match a.setFlag flag with
          | some a => readFrom a none rest
          | none => .misused
        | _, _, _ => .misused

/-- The options of a command line. -/
def read (words : List String) : ArgumentsResult := readFrom {} none words

/-- The size of a page. -/
def pageSizeOrDefault (a : Arguments) : Nat := a.pageSize.getD VerifyOptions.defaultPageSize

/-- The range that the options stand for; a missing start is 1970-01-01, a missing end `now`. -/
def range (a : Arguments) (now : Instant) : Except (List Violation) (Option DateRange) :=
  match a.start, a.finish with
  | none, none => .ok none
  | start, finish => (DateRange.make (start.getD .epoch) (finish.getD now)).map some

end Arguments

/-! ## The program -/

/-- How the program ends. -/
inductive Exit where
  /-- All records are intact; the report may have to be written to a file. -/
  | success (report : VerificationReport) (path : Option String)
  /-- The help was asked for. -/
  | help
  /-- The arguments are wrong. -/
  | misused
  /-- The program broke off, which is none of its own errors. -/
  | aborted
  /-- An error with its causes; the report is written all the same if it exists. -/
  | failure (chain : List String) (report : Option (VerificationReport × Option String))

/-- The causes of an error, each on a line of its own; several are numbered. -/
def causesText : List String → String
  | [] => ""
  | [cause] => "\n\nCaused by:\n    " ++ cause
  | causes =>
    "\n\nCaused by:" ++
      String.join (causes.mapIdx fun i cause =>
        "\n    " ++ toString i ++ ": " ++ cause)

/-- An error with its causes. -/
def errorText : List String → String
  | [] => "Error: "
  | message :: causes => "Error: " ++ message ++ causesText causes

namespace Exit

/-- The exit code. -/
def code : Exit → Nat
  | success _ _ => 0
  | help => 0
  | misused => 2
  | aborted => 101
  | failure _ _ => 1

/-- The report and the file it is written to. -/
def document : Exit → Option (String × String)
  | success report (some path) => some (path, report.text)
  | failure _ (some (report, some path)) => some (path, report.text)
  | _ => none

end Exit

namespace VerifyCommand

variable {m : Type → Type} [Monad m]

/-- The message about altered records. -/
def alteredMessage (report : VerificationReport) : String :=
  toString report.mismatches.length ++ " of " ++ toString report.recordsChecked ++
    " records failed checksum verification"

/-- The verification with a store at hand. -/
def verify (store : Store m) (limits : Limits) (a : Arguments) (now : Instant) : m Exit := do
  match a.range now with
  | .error vs => pure (.failure [violationsMessage vs] none)
  | .ok range => do
    let ledger : Ledger m := ⟨store, limits⟩
    match ← (verifyLedger ledger ⟨range, a.pageSizeOrDefault, a.failFast⟩ now now).run with
    | .error e => pure (.failure e.chain none)
    | .ok none => pure .aborted
    | .ok (some report) =>
      if report.clean then pure (.success report a.report)
      else pure (.failure [alteredMessage report] (some (report, a.report)))

/-- The program: arguments, settings, connection and verification, in this order. -/
def run (connect : DatabaseSettings → m (Except ConnectError (Store m))) (words : List String)
    (env : Environment) (now : Instant) : m Exit := do
  match Arguments.read words with
  | .help => pure .help
  | .misused => pure .misused
  | .verify a =>
    match (do pure ((← DatabaseSettings.read env), ← Limits.read env)) with
    | .error e => pure (.failure [SettingsError.message e] none)
    | .ok (database, limits) =>
      match ← connect database with
      | .error e =>
        if e.isFatal then pure .aborted
        else pure (.failure ("failed to connect to the audit database" :: e.chain) none)
      | .ok store =>
        verify store
          { limits with maxPageSize := max limits.maxPageSize a.pageSizeOrDefault } a now

end VerifyCommand

end EventLedger
