import EventLedger.Audit.Violation

/-!
# Pages

* `PageRequest`: number and size of a page, counted from one;
* `PageRequest.violations`, `PageRequest.limit`, `PageRequest.offset?`: its bounds and its place;
* `PageInfo`, `Page`: what is told about a page, and the page.
-/

namespace EventLedger

/-- A page of a list, the first one having number one. -/
structure PageRequest where
  page : Nat
  pageSize : Nat
  deriving DecidableEq, Repr

namespace PageRequest

/-- The size of a page where nothing else is said. -/
def defaultSize : Nat := 20

/-- The first page. -/
def first (pageSize : Nat) : PageRequest := ⟨1, pageSize⟩

/-- What is wrong with a request where pages have `greatest` items at most. -/
def violations (p : PageRequest) (greatest : Nat) : List Violation :=
  if p.page < 1 then [.single "page" .belowOne]
  else if p.pageSize < 1 ∨ greatest < p.pageSize then
    [.single "pageSize" (.notBetweenOneAnd greatest)]
  else []

/-- The number of items on a full page. -/
def limit (p : PageRequest) : Int := p.pageSize

/-- The number of items in front of the page. Nothing if it is no signed number of 64 bits; whatever
asks for it breaks off then. -/
def offset? (p : PageRequest) : Option Int :=
  Text.i64.ofInt? (((p.page - 1) * p.pageSize : Nat) : Int)

theorem offset?_eq_some {p : PageRequest} (h : (p.page - 1) * p.pageSize < Nat.pow 2 63) :
    p.offset? = some (((p.page - 1) * p.pageSize : Nat) : Int) := by
  have habove : Text.i64.above + 1 = Nat.pow 2 63 := rfl
  exact Text.IntegerType.ofInt?_of_holds (Text.IntegerType.holds_iff.mpr (by omega))

/-- A request in a JSON document. -/
def toJson (p : PageRequest) : Json :=
  .obj [("page", Json.ofNat p.page), ("pageSize", Json.ofNat p.pageSize)]

/-- The members of a request. -/
def reader : Json.MemberReader PageRequest := do
  let page ← Json.required "page" (Json.nat? Text.u32)
  let pageSize ← Json.required "pageSize" (Json.nat? Text.u32)
  pure { page, pageSize }

/-- The request that a JSON value denotes. -/
def ofJson? (j : Json) : Option PageRequest := Json.typed reader j

end PageRequest

/-- What is told about a page. -/
structure PageInfo where
  page : Nat
  pageSize : Nat
  totalItems : Nat
  totalPages : Nat
  hasNextPage : Bool
  hasPreviousPage : Bool
  deriving DecidableEq, Repr

/-- The number of pages that hold `items` items; a size of zero counts as one. -/
def pageCount (items pageSize : Nat) : Nat :=
  let size := max pageSize 1
  (items + (size - 1)) / size

/-- What is told about a page of a list with `totalItems` items. -/
def PageInfo.of (p : PageRequest) (totalItems : Nat) : PageInfo :=
  let totalPages := pageCount totalItems p.pageSize
  { page := p.page
    pageSize := p.pageSize
    totalItems
    totalPages
    hasNextPage := p.page < totalPages
    hasPreviousPage := 1 < p.page }

/-- Page information in a JSON document. -/
def PageInfo.toJson (i : PageInfo) : Json :=
  .obj [
    ("page", Json.ofNat i.page),
    ("pageSize", Json.ofNat i.pageSize),
    ("totalItems", Json.ofNat i.totalItems),
    ("totalPages", Json.ofNat i.totalPages),
    ("hasNextPage", .bool i.hasNextPage),
    ("hasPreviousPage", .bool i.hasPreviousPage)]

/-- A page of a list. -/
structure Page (α : Type) where
  items : List α
  info : PageInfo

end EventLedger
