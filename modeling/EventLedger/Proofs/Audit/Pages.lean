import EventLedger.Proofs.Audit.AppendOnly
import EventLedger.Proofs.Audit.Listing

/-!
# Pages of a listing

Each page of a query is counted, sorted and cut out by itself. Over one memory these pages lie side
by side: put together they are the listing of all admitted records.

* `lt_pageCount_iff`, `le_mul_iff_pageCount_le`: how many pages there are;
* `Memory.pageAt`, **`Memory.run_query`**: what a page of a memory is;
* `itemsOf`, `Paged`: pages put together, and what they tell of the listing;
* `Memory.paged`, **`pages_tile_listing`**.
-/

namespace EventLedger

/-! ## Numbers of pages -/

theorem lt_pageCount_iff {page items size : Nat} (hs : 1 ≤ size) :
    page < pageCount items size ↔ page * size < items := by
  unfold pageCount
  dsimp only
  rw [Nat.max_eq_left hs, Nat.lt_iff_add_one_le, Nat.le_div_iff_mul_le hs, Nat.succ_mul]
  omega

theorem le_mul_iff_pageCount_le {page items size : Nat} (hs : 1 ≤ size) :
    items ≤ page * size ↔ pageCount items size ≤ page := by
  have h : page < pageCount items size ↔ page * size < items := lt_pageCount_iff hs
  omega

theorem pageCount_lt_of_le {part all size limit : Nat} (hle : part ≤ all) (hs : 1 ≤ size)
    (h : pageCount all size < limit) : pageCount part size < limit := by
  have hall := (le_mul_iff_pageCount_le hs).mpr (Nat.le_sub_one_of_lt h)
  have hpart := (le_mul_iff_pageCount_le hs).mp (Nat.le_trans hle hall)
  omega

theorem sub_one_mul_add {page : Nat} (hp : 1 ≤ page) (size : Nat) :
    (page - 1) * size + size = page * size := by
  rw [← Nat.succ_mul, Nat.succ_eq_add_one, Nat.sub_add_cancel hp]

namespace PageRequest

theorem violations_eq_nil {p : PageRequest} {greatest : Nat} (h1 : 1 ≤ p.page)
    (h2 : 1 ≤ p.pageSize) (h3 : p.pageSize ≤ greatest) : p.violations greatest = [] := by
  unfold violations
  rw [if_neg (by omega), if_neg (by omega)]

theorem violations_eq_nil_iff {p : PageRequest} {greatest : Nat} :
    p.violations greatest = [] ↔ 1 ≤ p.page ∧ 1 ≤ p.pageSize ∧ p.pageSize ≤ greatest := by
  refine ⟨fun h => ?_, fun ⟨h1, h2, h3⟩ => violations_eq_nil h1 h2 h3⟩
  unfold violations at h
  split at h
  · cases h
  · split at h
    · cases h
    · omega

end PageRequest

/-! ## A page of a memory -/

/-- A page of the admitted records in order. -/
def Memory.pageAt (m : Memory) (f : Filter) (o : RecordOrder) (p : PageRequest) : Page Record :=
  ⟨((o.sort (m.admitted f)).drop ((p.page - 1) * p.pageSize)).take p.pageSize, .of p (m.count f)⟩

namespace Memory

theorem length_sort_admitted (m : Memory) (f : Filter) (o : RecordOrder) :
    (o.sort (m.admitted f)).length = m.count f := List.length_mergeSort _

theorem items_first_eq_take (m : Memory) (f : Filter) (o : RecordOrder) (size : Nat) :
    (m.pageAt f o (.first size)).items = (o.sort (m.admitted f)).take size := by
  simp only [pageAt, PageRequest.first, Nat.sub_self, Nat.zero_mul, List.drop_zero]

theorem run_query (limits : Limits) (storedAt : Instant) (m : Memory) {f : Filter}
    (o : RecordOrder) {p : PageRequest} (hp : p.violations limits.maxPageSize = [])
    (hf : f.violations = []) (hplace : (p.page - 1) * p.pageSize < Nat.pow 2 63) :
    ((ledger limits storedAt).query f p o).run m = (.ok (some (m.pageAt f o p)), m) := by
  have hcount : ((ledger limits storedAt).store.count f).run m = (.ok (m.count f : Int), m) := rfl
  have hfetch (offset : Int) : ((ledger limits storedAt).store.fetchPage f o p.limit offset).run m =
    (.ok (m.page f o p.limit offset), m) := rfl
  rw [Ledger.run_query _ m f p o hp hf, hcount, PageRequest.offset?_eq_some hplace]
  simp only [hfetch]
  by_cases hlt : (p.page - 1) * p.pageSize < m.count f
  · rw [if_pos (by omega)]
    rfl
  · rw [if_neg (by omega), pageAt, List.drop_of_length_le, List.take_nil, Int.toNat_natCast]
    rw [length_sort_admitted]
    omega

end Memory

/-! ## Pages put together -/

/-- What stands on the first `n` pages. -/
def itemsOf (pages : Nat → Page Record) (n : Nat) : List Record :=
  (List.range n).flatMap fun i => (pages (i + 1)).items

/-- What `n` pages of one size tell of the records `rs` that they list. -/
structure Paged (o : RecordOrder) (size : Nat) (rs : List Record) (n : Nat)
    (pages : Nat → Page Record) : Prop where
  /-- `n` is the least number of pages that hold all records. -/
  least : ∀ k, rs.length ≤ k * size ↔ n ≤ k
  listed : o.Lists rs (itemsOf pages n)
  full : ∀ p, 1 ≤ p → p < n → (pages p).items.length = size
  last : 1 ≤ n → (pages n).items ≠ []
  total : ∀ p, (pages p).info.totalItems = rs.length ∧ (pages p).info.totalPages = n
  next : ∀ p, 1 ≤ p → ((pages p).info.hasNextPage = true ↔ (pages (p + 1)).items ≠ [])
  previous : ∀ p, (pages p).info.hasPreviousPage = true ↔ 1 < p

theorem flatMap_pieces {α : Type} (xs : List α) (size n : Nat) :
    ((List.range n).flatMap fun i => (xs.drop (i * size)).take size) = xs.take (n * size) := by
  induction n with
  | zero => simp
  | succ n ih =>
    rw [List.range_succ, List.flatMap_append, ih, Nat.succ_mul, List.take_add]
    simp

theorem drop_eq_page_append {α : Type} (xs : List α) (size : Nat) {page : Nat} (hp : 1 ≤ page) :
    xs.drop ((page - 1) * size) =
      (xs.drop ((page - 1) * size)).take size ++ xs.drop (page * size) := by
  rw [← sub_one_mul_add hp, ← List.drop_drop, List.take_append_drop]

namespace Memory

variable (m : Memory) (f : Filter) (o : RecordOrder) {size : Nat}

theorem itemsOf_pageAt (hs : 1 ≤ size) :
    itemsOf (fun p => m.pageAt f o ⟨p, size⟩) (pageCount (m.count f) size) =
      o.sort (m.admitted f) := by
  have hall : m.count f ≤ pageCount (m.count f) size * size :=
    (le_mul_iff_pageCount_le hs).mpr (Nat.le_refl _)
  simp only [itemsOf, pageAt, Nat.add_sub_cancel]
  rw [flatMap_pieces, List.take_of_length_le]
  rw [length_sort_admitted]
  exact hall

theorem length_items_pageAt (p : Nat) :
    (m.pageAt f o ⟨p, size⟩).items.length = min size (m.count f - (p - 1) * size) := by
  rw [pageAt, List.length_take, List.length_drop, length_sort_admitted]

/-- **The pages of a memory without repeated sequence numbers.** -/
theorem paged (hd : m.records.Pairwise fun a b => a.sequenceNumber ≠ b.sequenceNumber)
    (hs : 1 ≤ size) :
    Paged o size (m.admitted f) (pageCount (m.count f) size) fun p => m.pageAt f o ⟨p, size⟩ where
  least k := le_mul_iff_pageCount_le hs
  listed := by
    rw [itemsOf_pageAt m f o hs]
    exact o.lists_sort (hd.filter _)
  full p h1 h2 := by
    have h3 := (lt_pageCount_iff hs).mp h2
    have h4 := sub_one_mul_add h1 size
    rw [length_items_pageAt]
    omega
  last h1 := by
    have h2 : pageCount (m.count f) size - 1 < pageCount (m.count f) size := by omega
    have h3 := (lt_pageCount_iff hs).mp h2
    rw [← List.length_pos_iff, length_items_pageAt]
    omega
  total p := ⟨rfl, rfl⟩
  next p h1 := by
    have h2 : (m.pageAt f o ⟨p, size⟩).info.hasNextPage =
      decide (p < pageCount (m.count f) size) := rfl
    rw [h2, decide_eq_true_iff, lt_pageCount_iff hs, ← List.length_pos_iff, length_items_pageAt,
      Nat.add_sub_cancel]
    omega
  previous p := by
    have h2 : (m.pageAt f o ⟨p, size⟩).info.hasPreviousPage = decide (1 < p) := rfl
    rw [h2, decide_eq_true_iff]

end Memory

/-- **Pages tile the listing.** After any calls, for every valid filter and every size of a page that
the ledger admits: each page up to the last one is answered, and so is every further page whose place
is a signed number of 64 bits; the pages put together list the admitted records, and downwards they
list them from the last to the first. The counter of the memory is a signed number of 64 bits. -/
theorem pages_tile_listing (limits : Limits) (storedAt : Instant) (calls : List Writing) {m : Memory}
    (hm : m = memoryAfter limits .empty calls) (hc : Text.i64.holds m.lastSequence = true)
    {f : Filter} (hf : f.violations = []) {size : Nat} (h1 : 1 ≤ size)
    (h2 : size ≤ limits.maxPageSize) :
    ∃ (n : Nat) (pages : RecordOrder → Nat → Page Record),
      (∀ o p, 1 ≤ p → (p ≤ n ∨ (p - 1) * size < Nat.pow 2 63) →
        ((Memory.ledger limits storedAt).query f ⟨p, size⟩ o).run m = (.ok (some (pages o p)), m)) ∧
      (∀ o, Paged o size (m.records.filter f.admits) n (pages o)) ∧
      ∀ k, itemsOf (pages ⟨k, .descending⟩) n = (itemsOf (pages ⟨k, .ascending⟩) n).reverse := by
  have hcons : m.Consistent := by
    rw [hm]
    exact consistent_memoryAfter limits Memory.consistent_empty calls
  have hd : m.records.Pairwise fun a b => a.sequenceNumber ≠ b.sequenceNumber :=
    hcons.increasing.imp fun h => by omega
  refine ⟨pageCount (m.count f) size, fun o p => m.pageAt f o ⟨p, size⟩, ?_, ?_, ?_⟩
  · intro o p hp hplace
    refine m.run_query limits storedAt o (PageRequest.violations_eq_nil hp h1 h2) hf ?_
    dsimp only
    rcases hplace with hle | hlt
    · have h3 : p - 1 < pageCount (m.count f) size := by omega
      have h4 := (lt_pageCount_iff h1).mp h3
      have h5 := hcons.length_lt hc
      have h6 : m.count f ≤ m.records.length := List.length_filter_le _ _
      omega
    · exact hlt
  · intro o
    exact m.paged f o hd h1
  · intro k
    rw [m.itemsOf_pageAt f _ h1, m.itemsOf_pageAt f _ h1]
    exact RecordOrder.sort_descending k (hd.filter _)

/-- A refund handed in under an id of its own, seen `day` days after the first one. -/
def Writing.refund (id : Uuid) (day : Int) : Writing :=
  .single ⟨id, id⟩ .epoch .epoch
    { Submission.refund with id := some id, timestamp := some (.ofSeconds (86400 * day)) }

/-- Three refunds, the second one seen before the first, on pages of two. -/
theorem refunds_on_pages_of_two :
    let m := memoryAfter .standard .empty [.refund ⟨1⟩ 0, .refund ⟨2⟩ (-1), .refund ⟨3⟩ 7]
    Text.i64.holds m.lastSequence = true ∧ (Filter.ofActor "admin-3").violations = [] ∧
      m.count (.ofActor "admin-3") = 3 ∧
      ∃ (n : Nat) (pages : RecordOrder → Nat → Page Record),
        (∀ o p, 1 ≤ p → (p ≤ n ∨ (p - 1) * 2 < Nat.pow 2 63) →
          ((Memory.ledger .standard .epoch).query (.ofActor "admin-3") ⟨p, 2⟩ o).run m =
            (.ok (some (pages o p)), m)) ∧
        (∀ o, Paged o 2 (m.records.filter (Filter.ofActor "admin-3").admits) n (pages o)) ∧
        ∀ k, itemsOf (pages ⟨k, .descending⟩) n =
          (itemsOf (pages ⟨k, .ascending⟩) n).reverse := by
  intro m
  have hc : Text.i64.holds m.lastSequence = true := by decide +kernel
  have hf : (Filter.ofActor "admin-3").violations = [] := rfl
  have hn : m.count (.ofActor "admin-3") = 3 := by decide +kernel
  exact ⟨hc, hf, hn, pages_tile_listing .standard .epoch _ rfl hc hf (by decide) (by decide)⟩

end EventLedger
