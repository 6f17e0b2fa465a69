import EventLedger.Audit.Filter
import EventLedger.Audit.Page
import EventLedger.Audit.RecordOrder
import EventLedger.Text.Segments

/-!
# Search parameters

A search arrives as texts. Sets are written with commas between their elements; a blank parameter
counts as absent.

* `QueryParams`: the parameters as they arrive;
* `splitSet`: the elements of a set;
* `QueryParams.parse`: filter, page and order, or a violation for every parameter that cannot be
  read.
-/

namespace EventLedger

/-- The parameters of a search, unread. -/
structure QueryParams where
  eventTypes : Option String := none
  category : Option String := none
  actorTypes : Option String := none
  actorIds : Option String := none
  resourceTypes : Option String := none
  resourceIds : Option String := none
  correlationId : Option String := none
  causationId : Option String := none
  dateFrom : Option String := none
  dateTo : Option String := none
  sourceServices : Option String := none
  search : Option String := none
  sortBy : Option String := none
  sortOrder : Option String := none
  page : Option String := none
  pageSize : Option String := none

/-- The elements of a set that are not blank, trimmed. -/
def splitSet (raw : Option String) : List String :=
  match raw with
  | none => []
  | some s =>
    (Text.segments ',' s.toList).filterMap fun piece => Text.nonBlank? (String.ofList piece)

/-- What a parameter turned out to be: absent, a value, or unreadable. -/
inductive Reading (α : Type) where
  | absent
  | value (a : α)
  | unreadable (violation : Violation)

namespace Reading

/-- A trimmed text read as a value. -/
def ofText {α : Type} (field : String) (read : String → Except String α) (s : String) : Reading α :=
  match read s with
  | .ok a => .value a
  | .error problem => .unreadable (.single field (.unreadable s problem))

/-- A parameter read as a value. -/
def ofParam {α : Type} (field : String) (read : String → Except String α) (raw : Option String) :
    Reading α :=
  match raw.bind Text.nonBlank? with
  | none => .absent
  | some s => ofText field read s

/-- The value, if there is one. -/
def value? {α : Type} : Reading α → Option α
  | .value a => some a
  | _ => none

/-- The violation, if there is one. -/
def violation? {α : Type} : Reading α → Option Violation
  | .unreadable v => some v
  | _ => none

end Reading

/-- A kind of actor, or the message about any other name. -/
def readActorKind (s : String) : Except String ActorKind :=
  match ActorKind.ofWord? s with
  | some k => .ok k
  | none => .error (ActorKind.unknownMessage s)

/-- An instant, or the message about any other text. -/
def readInstant (s : String) : Except String Instant :=
  (Instant.read s).mapError TimestampError.message

/-- A natural number of 32 bits, or the message about any other text. -/
def readCount (s : String) : Except String Nat :=
  (Text.readNat Text.u32 s).mapError Text.IntegerError.message

namespace QueryParams

/-- Filter, page and order of a search, or everything that cannot be read. -/
def parse (q : QueryParams) (defaultPageSize : Nat) :
    Except (List Violation) (Filter × PageRequest × RecordOrder) :=
  let actorKinds := (splitSet q.actorTypes).map (Reading.ofText "actorTypes" readActorKind)
  let dateFrom := Reading.ofParam "dateFrom" readInstant q.dateFrom
  let dateTo := Reading.ofParam "dateTo" readInstant q.dateTo
  let field := Reading.ofParam "sortBy" SortField.read q.sortBy
  let direction := Reading.ofParam "sortOrder" Direction.read q.sortOrder
  let page := Reading.ofParam "page" readCount q.page
  let pageSize := Reading.ofParam "pageSize" readCount q.pageSize
  let violations := actorKinds.filterMap (·.violation?) ++
    [dateFrom.violation?, dateTo.violation?, field.violation?, direction.violation?,
      page.violation?, pageSize.violation?].filterMap id
  if violations.isEmpty then
    .ok ({
        eventTypes := splitSet q.eventTypes
        category := q.category.bind Text.nonBlank?
        actorKinds := actorKinds.filterMap (·.value?)
        actorIds := splitSet q.actorIds
        resourceTypes := splitSet q.resourceTypes
        resourceIds := splitSet q.resourceIds
        correlationId := q.correlationId.bind Text.nonBlank?
        causationId := q.causationId.bind Text.nonBlank?
        dateFrom := dateFrom.value?
        dateTo := dateTo.value?
        sourceServices := splitSet q.sourceServices
        search := q.search.bind Text.nonBlank? },
      ⟨page.value?.getD 1, pageSize.value?.getD defaultPageSize⟩,
      ⟨field.value?.getD .timestamp, direction.value?.getD .descending⟩)
  else .error violations

/-- The members of search parameters. -/
def reader : Json.MemberReader QueryParams := do
  let param (name : String) := Json.optional name Json.text?
  let eventTypes ← param "eventTypes"
  let category ← param "category"
  let actorTypes ← param "actorTypes"
  let actorIds ← param "actorIds"
  let resourceTypes ← param "resourceTypes"
  let resourceIds ← param "resourceIds"
  let correlationId ← param "correlationId"
  let causationId ← param "causationId"
  let dateFrom ← param "dateFrom"
  let dateTo ← param "dateTo"
  let sourceServices ← param "sourceServices"
  let search ← param "search"
  let sortBy ← param "sortBy"
  let sortOrder ← param "sortOrder"
  let page ← param "page"
  let pageSize ← param "pageSize"
  pure {
    eventTypes, category, actorTypes, actorIds, resourceTypes, resourceIds, correlationId,
    causationId, dateFrom, dateTo, sourceServices, search, sortBy, sortOrder, page, pageSize }

/-- The search parameters that a JSON value denotes. -/
def ofJson? (j : Json) : Option QueryParams := Json.typed reader j

end QueryParams

end EventLedger
