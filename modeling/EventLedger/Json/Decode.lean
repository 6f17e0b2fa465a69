import EventLedger.Json.Basic
import EventLedger.Text.Integer

/-!
# Typed values from JSON

A typed value is written as an object of named members or as an array of its members in the order of
their declaration. Unknown names are ignored, surplus items are not. A member is read by one of
three rules:

* `required`: it has to be there;
* `defaulted`: where it is missing the default stands for it;
* `optional`: null stands for nothing, and so does a missing member.

`typed` runs the readers of all members.
-/

namespace EventLedger.Json

/-- The members a typed value is read from. -/
inductive Members where
  | named (members : List (String × Json))
  | listed (items : List Json)

/-- A reader of members; of an array it takes items from the front. -/
abbrev MemberReader (α : Type) := StateT Members Option α

/-- The value of the next member, or nothing if it is missing. -/
def nextMember (name : String) : MemberReader (Option Json) := fun members =>
  match members with
  | .named ms => some (ms.lookup name, .named ms)
  | .listed [] => some (none, .listed [])
  | .listed (x :: xs) => some (some x, .listed xs)

/-- A member that has to be there. -/
def required {α : Type} (name : String) (read : Json → Option α) : MemberReader α := do
  match ← nextMember name with
  | some j => fun members => (read j).map (·, members)
  | none => fun _ => none

/-- A value, or nothing for null. -/
def orNull {α : Type} (read : Json → Option α) : Json → Option (Option α)
  | .null => some none
  | j => (read j).map some

/-- A member for which a missing name or item stands for `default`. -/
def defaulted {α : Type} (name : String) (default : α) (read : Json → Option α) :
    MemberReader α := do
  match ← nextMember name with
  | some j => fun members => (read j).map (·, members)
  | none => pure default

/-- A member for which null stands for nothing, and so does a missing name or item. -/
def optional {α : Type} (name : String) (read : Json → Option α) :
    MemberReader (Option α) :=
  defaulted name none (orNull read)

/-- The typed value that an object or an array denotes. -/
def typed {α : Type} (reader : MemberReader α) : Json → Option α
  | .obj members => (reader (.named members)).map (·.1)
  | .arr items =>
    match reader (.listed items) with
    | some (value, .listed []) => some value
    | _ => none
  | _ => none

/-! ## Simple values -/

/-- A text. -/
def text? : Json → Option String
  | .str s => some s
  | _ => none

/-- A truth value. -/
def bool? : Json → Option Bool
  | .bool b => some b
  | _ => none

/-- A whole number of a type. -/
def integer? (t : Text.IntegerType) : Json → Option Int
  | .int n => if t.holds n then some n else none
  | _ => none

/-- A natural number of an unsigned type. -/
def nat? (t : Text.IntegerType) (j : Json) : Option Nat := (integer? t j).map Int.toNat

/-- A list of values of one kind. -/
def list? {α : Type} (read : Json → Option α) : Json → Option (List α)
  | .arr items => items.mapM read
  | _ => none

/-- The members of an object. -/
def members? : Json → Option (List (String × Json))
  | .obj members => some members
  | _ => none

/-- A word for one of several cases, as a text or as an object that binds it to null. -/
def word? : Json → Option String
  | .str s => some s
  | .obj [(name, .null)] => some name
  | _ => none

end EventLedger.Json
