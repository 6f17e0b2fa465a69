import EventLedger.Audit.StorageError
import EventLedger.Audit.Wire
import EventLedger.Json.Printer
import EventLedger.Text.Lowercase

/-!
# Filters

A filter is a list of conditions that all have to hold. An empty set and an absent value admit every
record.

* `DateRange`: from one instant to another, both included;
* `Filter`, `Filter.admits`: the conditions and what they admit;
* `Record.mentions`: search in description, reason and metadata;
* `Filter.violations`: a range that starts after its end.
-/

namespace EventLedger

/-! ## Ranges of time -/

/-- The instants from `start` to `finish`, both included. -/
structure DateRange where
  start : Instant
  finish : Instant

namespace DateRange

/-- What is wrong with a range from one instant to another. -/
def violations (start finish : Instant) : List Violation :=
  if finish.before start then [.single "dateRange" (.rangeReversed start finish)] else []

/-- The range, or what is wrong with it. -/
def make (start finish : Instant) : Except (List Violation) DateRange :=
  match violations start finish with
  | [] => .ok ⟨start, finish⟩
  | vs => .error vs

/-- The instant lies in the range. -/
def contains (r : DateRange) (t : Instant) : Bool := r.start.notAfter t && t.notAfter r.finish

/-- A range in a JSON document. -/
def toJson (r : DateRange) : Json :=
  .obj [("from", Json.ofInstant r.start), ("to", Json.ofInstant r.finish)]

/-- The members of a range. -/
def reader : Json.MemberReader DateRange := do
  let start ← Json.required "from" Json.instant?
  let finish ← Json.required "to" Json.instant?
  pure { start, finish }

/-- The range that a JSON value denotes. -/
def ofJson? (j : Json) : Option DateRange := Json.typed reader j

end DateRange

/-! ## Search -/

mutual

/-- Some text, number or truth value inside a value holds the lower-cased `needle`. -/
def Json.mentions (needle : List Char) : Json → Bool
  | .str s => Text.foundIn needle s
  | .int n => Text.foundIn needle (toString n)
  | .float x => Text.foundIn needle (Json.floatText x)
  | .bool b => Text.occursIn needle (Json.boolText b).toList
  | .null => false
  | .arr items => Json.itemsMention needle items
  | .obj members => Json.membersMention needle members

/-- Some item mentions `needle`. -/
def Json.itemsMention (needle : List Char) : List Json → Bool
  | [] => false
  | x :: xs => x.mentions needle || Json.itemsMention needle xs

/-- The value of some member mentions `needle`. -/
def Json.membersMention (needle : List Char) : List (String × Json) → Bool
  | [] => false
  | (_, x) :: rest => x.mentions needle || Json.membersMention needle rest

end

/-- Description, reason or a value in the metadata holds the text, letter case put aside. -/
def Record.mentions (r : Record) (search : String) : Bool :=
  let needle := Text.lower search.toList
  r.description.any (Text.foundIn needle) || r.reason.any (Text.foundIn needle) ||
    Json.membersMention needle r.metadata

/-! ## Filters -/

/-- Conditions on records. -/
structure Filter where
  eventTypes : List String := []
  /-- The start of the category. -/
  category : Option String := none
  actorKinds : List ActorKind := []
  actorIds : List String := []
  resourceTypes : List String := []
  resourceIds : List String := []
  correlationId : Option String := none
  causationId : Option String := none
  dateFrom : Option Instant := none
  dateTo : Option Instant := none
  sourceServices : List String := []
  search : Option String := none

/-- A set of admitted values; the empty set admits everything. -/
def admitted {α : Type} [BEq α] (set : List α) (value : α) : Bool :=
  set.isEmpty || set.contains value

/-- One text starts with another. -/
def startsWith (start s : String) : Bool := start.toList.isPrefixOf s.toList

namespace Filter

/-- The filter that admits everything. -/
def everything : Filter := {}

/-- The records of one business transaction. -/
def ofCorrelation (correlationId : String) : Filter := { correlationId := some correlationId }

/-- The records about one resource. -/
def ofResource (kind id : String) : Filter := { resourceTypes := [kind], resourceIds := [id] }

/-- The records about one actor. -/
def ofActor (id : String) : Filter := { actorIds := [id] }

/-- The records of a range of time. -/
def within (r : DateRange) : Filter := { dateFrom := some r.start, dateTo := some r.finish }

/-- All conditions hold for a record. -/
def admits (f : Filter) (r : Record) : Bool :=
  admitted f.eventTypes r.eventType &&
  f.category.all (startsWith · r.category) &&
  admitted f.actorKinds r.actor.kind &&
  admitted f.actorIds r.actor.id &&
  admitted f.resourceTypes r.resource.kind &&
  admitted f.resourceIds r.resource.id &&
  f.correlationId.all (· == r.correlationId) &&
  f.causationId.all (fun c => r.causationId == some c) &&
  f.dateFrom.all (·.notAfter r.timestamp) &&
  f.dateTo.all (r.timestamp.notAfter ·) &&
  admitted f.sourceServices r.sourceService &&
  f.search.all r.mentions

/-- What is wrong with a filter. -/
def violations (f : Filter) : List Violation :=
  match f.dateFrom, f.dateTo with
  | some start, some finish => DateRange.violations start finish
  | _, _ => []

/-! ## JSON documents -/

/-- A list of texts in a JSON document. -/
def ofTexts (texts : List String) : Json := .arr (texts.map .str)

/-- A filter in a JSON document. -/
def toJson (f : Filter) : Json :=
  .obj [
    ("eventTypes", ofTexts f.eventTypes),
    ("category", Json.ofText? f.category),
    ("actorTypes", .arr (f.actorKinds.map ActorKind.toJson)),
    ("actorIds", ofTexts f.actorIds),
    ("resourceTypes", ofTexts f.resourceTypes),
    ("resourceIds", ofTexts f.resourceIds),
    ("correlationId", Json.ofText? f.correlationId),
    ("causationId", Json.ofText? f.causationId),
    ("dateFrom", Json.orNullOf Json.ofInstant f.dateFrom),
    ("dateTo", Json.orNullOf Json.ofInstant f.dateTo),
    ("sourceServices", ofTexts f.sourceServices),
    ("search", Json.ofText? f.search)]

/-- The members of a filter. -/
def reader : Json.MemberReader Filter := do
  let texts := Json.list? Json.text?
  let eventTypes ← Json.defaulted "eventTypes" [] texts
  let category ← Json.optional "category" Json.text?
  let actorKinds ← Json.defaulted "actorTypes" [] (Json.list? ActorKind.ofJson?)
  let actorIds ← Json.defaulted "actorIds" [] texts
  let resourceTypes ← Json.defaulted "resourceTypes" [] texts
  let resourceIds ← Json.defaulted "resourceIds" [] texts
  let correlationId ← Json.optional "correlationId" Json.text?
  let causationId ← Json.optional "causationId" Json.text?
  let dateFrom ← Json.optional "dateFrom" Json.instant?
  let dateTo ← Json.optional "dateTo" Json.instant?
  let sourceServices ← Json.defaulted "sourceServices" [] texts
  let search ← Json.optional "search" Json.text?
  pure {
    eventTypes, category, actorKinds, actorIds, resourceTypes, resourceIds, correlationId,
    causationId, dateFrom, dateTo, sourceServices, search }

/-- The filter that a JSON value denotes. -/
def ofJson? (j : Json) : Option Filter := Json.typed reader j

end Filter

end EventLedger
