import EventLedger.Audit.Record

/-!
# Differences between two states

* `FieldDiff`: one field that differs;
* `StateChange.changedFields`: all fields that differ, by name. States that are no objects count as
  one field named `$`.
-/

namespace EventLedger

/-- A field that differs between two states; it may be absent on one side. -/
structure FieldDiff where
  field : String
  before : Option Json
  after : Option Json

/-- A name put into sorted names, each standing there once. -/
def insertName (name : String) : List String → List String
  | [] => [name]
  | n :: rest =>
    if name = n then n :: rest
    else if name < n then name :: n :: rest
    else n :: insertName name rest

/-- Names sorted, each once. -/
def sortedNames (names : List String) : List String := names.foldr insertName []

/-- The same value on both sides, or none on either. -/
def sameOptional : Option Json → Option Json → Bool
  | none, none => true
  | some a, some b => a.same b
  | _, _ => false

/-- The fields that differ between the members of two objects. -/
def changedMembers (before after : List (String × Json)) : List FieldDiff :=
  (sortedNames (before.map (·.1) ++ after.map (·.1))).filterMap fun name =>
    let old := before.lookup name
    let new := after.lookup name
    if sameOptional old new then none else some ⟨name, old, new⟩

/-- The fields that differ, sorted by name. An absent state counts as an object without members if
the other one is an object. -/
def StateChange.changedFields (c : StateChange) : List FieldDiff :=
  match c.before, c.after with
  | some (.obj before), some (.obj after) => changedMembers before after
  | some (.obj before), none => changedMembers before []
  | none, some (.obj after) => changedMembers [] after
  | before, after => if sameOptional before after then [] else [⟨"$", before, after⟩]

end EventLedger
