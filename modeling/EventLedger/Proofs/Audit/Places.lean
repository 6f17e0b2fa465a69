import EventLedger.Proofs.Audit.Pages
import EventLedger.Settings
import Mathlib.Tactic.ByContra

/-!
# The place of a page

A page is asked for by its number and its size, two numbers of 32 bits. Its place is the number of items
in front of it, and the ledger counts it by a signed number of 64 bits. There is a greatest size up to
which every place is one. Greater pages may stand so far behind that their place is none, and then the
query breaks off instead of answering that there is nothing on the page.

* `PageRequest.place`, `PageRequest.Admitted`: pages that may be asked for;
* `offset?_eq_place`, `offset?_eq_none`, `places_fit_iff`: places and how they are counted;
* `Memory.run_query_behind`, `Memory.run_query_endless`: what is answered for a page behind the last one,
  and where the query breaks off;
* **`places_counted_as_they_are`**, `endless_page_breaks_off`.
-/

namespace EventLedger

namespace PageRequest

/-- The number of items in front of the page. -/
def place (p : PageRequest) : Int := ((p.page : Int) - 1) * p.pageSize

/-- A request whose numbers have 32 bits and that is not refused. -/
structure Admitted (greatest : Nat) (p : PageRequest) : Prop where
  page : Text.u32.holds p.page = true
  pageSize : Text.u32.holds p.pageSize = true
  valid : p.violations greatest = []

variable {greatest : Nat} {p : PageRequest}

theorem place_eq (h : 1 ≤ p.page) : p.place = ((p.page - 1) * p.pageSize : Nat) := by
  rw [place, Int.natCast_mul, Int.natCast_sub h, Int.natCast_one]

theorem lt_of_u32_holds {n : Nat} (h : Text.u32.holds n = true) : n < 4294967296 := by
  have hpow : Nat.pow 2 32 = 4294967296 := rfl
  have hhigh : (n : Int) ≤ (Nat.pow 2 32 - 1 : Nat) := (Text.IntegerType.holds_iff.mp h).2
  omega

theorem Admitted.place_le (h : p.Admitted greatest) :
    p.place ≤ 4294967294 * (p.pageSize : Int) ∧ 0 ≤ p.place := by
  obtain ⟨h1, -, -⟩ := violations_eq_nil_iff.mp h.valid
  have hpage := lt_of_u32_holds h.page
  have hmul : (p.page - 1) * p.pageSize ≤ 4294967294 * p.pageSize :=
    Nat.mul_le_mul_right _ (by omega)
  rw [place_eq h1]
  omega

theorem offset?_eq_place (h : p.Admitted greatest) (hfits : p.place < Nat.pow 2 63) :
    p.offset? = some p.place := by
  obtain ⟨h1, -, -⟩ := violations_eq_nil_iff.mp h.valid
  rw [place_eq h1] at hfits ⊢
  exact offset?_eq_some (by omega)

theorem offset?_eq_none (h : p.Admitted greatest) (hfar : Nat.pow 2 63 ≤ p.place) :
    p.offset? = none := by
  obtain ⟨h1, -, -⟩ := violations_eq_nil_iff.mp h.valid
  have habove : Text.i64.above + 1 = Nat.pow 2 63 := rfl
  rw [place_eq h1] at hfar
  rw [offset?, Text.IntegerType.ofInt?_eq_none_iff, ← Bool.not_eq_true, Text.IntegerType.holds_iff]
  omega

/-- **All places are signed numbers of 64 bits up to a greatest size of pages.** -/
theorem places_fit_iff (greatest : Nat) :
    (∀ p : PageRequest, p.Admitted greatest → p.place < Nat.pow 2 63) ↔
      greatest ≤ Nat.pow 2 31 + 1 := by
  have hpow : Nat.pow 2 31 = 2147483648 ∧ Nat.pow 2 63 = 9223372036854775808 := ⟨rfl, rfl⟩
  constructor
  · intro h
    -- the last page of the next size is too far behind
    by_contra hgreater
    have hplace := h ⟨4294967295, 2147483650⟩
      ⟨by decide, by decide, violations_eq_nil_iff.mpr ⟨by decide, by decide, by dsimp only; omega⟩⟩
    exact absurd hplace (by decide)
  · intro hgreatest p hp
    obtain ⟨-, -, h3⟩ := violations_eq_nil_iff.mp hp.valid
    have hle := hp.place_le
    omega

end PageRequest

/-! ## A page behind the last one -/

theorem Memory.run_query_behind (limits : Limits) (storedAt : Instant) (m : Memory) {f : Filter}
    (o : RecordOrder) {p : PageRequest} (hp : p.Admitted limits.maxPageSize)
    (hf : f.violations = []) (hbehind : pageCount (m.count f) p.pageSize < p.page)
    (hfits : p.place < Nat.pow 2 63) :
    ((Memory.ledger limits storedAt).query f p o).run m =
      (.ok (some ⟨[], .of p (m.count f)⟩), m) := by
  obtain ⟨h1, h2, -⟩ := PageRequest.violations_eq_nil_iff.mp hp.valid
  have hall : m.count f ≤ (p.page - 1) * p.pageSize := (le_mul_iff_pageCount_le h2).mpr (by omega)
  rw [PageRequest.place_eq h1] at hfits
  rw [m.run_query limits storedAt o hp.valid hf (by omega), pageAt, List.drop_of_length_le,
    List.take_nil]
  rwa [length_sort_admitted]

/-- **A query breaks off** at a place that cannot be counted, whatever the memory has in it. -/
theorem Memory.run_query_endless (limits : Limits) (storedAt : Instant) (m : Memory) {f : Filter}
    (o : RecordOrder) {p : PageRequest} (hp : p.Admitted limits.maxPageSize)
    (hf : f.violations = []) (hfar : Nat.pow 2 63 ≤ p.place) :
    ((Memory.ledger limits storedAt).query f p o).run m = (.ok none, m) := by
  have hcount : ((ledger limits storedAt).store.count f).run m = (.ok (m.count f : Int), m) := rfl
  rw [Ledger.run_query _ m f p o hp.valid hf, hcount, PageRequest.offset?_eq_none hp hfar]

/-- **Places are counted as they are** exactly as far as they are signed numbers of 64 bits, which all of
them are as long as no page may have more than `2 ^ 31 + 1` items. For every greatest size, every
admitted page and every memory: a page behind the last one is answered as empty so far; further behind,
its place is not counted and the query breaks off. -/
theorem places_counted_as_they_are (limits : Limits) (storedAt : Instant) :
    (∀ p : PageRequest, p.Admitted limits.maxPageSize →
      (p.offset? = some p.place ∧ 0 ≤ p.place ∧ Text.i64.holds p.place = true ↔
        p.place < Nat.pow 2 63) ∧
      (p.offset? = none ↔ Nat.pow 2 63 ≤ p.place) ∧
      ∀ (m : Memory) (f : Filter) (o : RecordOrder), f.violations = [] →
        (p.place < Nat.pow 2 63 → pageCount (m.count f) p.pageSize < p.page →
          ((Memory.ledger limits storedAt).query f p o).run m =
            (.ok (some ⟨[], .of p (m.count f)⟩), m)) ∧
        (Nat.pow 2 63 ≤ p.place →
          ((Memory.ledger limits storedAt).query f p o).run m = (.ok none, m))) ∧
    ((∀ p : PageRequest, p.Admitted limits.maxPageSize → p.place < Nat.pow 2 63) ↔
      limits.maxPageSize ≤ Nat.pow 2 31 + 1) := by
  refine ⟨fun p hp => ⟨⟨?_, fun hfits => ?_⟩, ⟨fun hnone => ?_, PageRequest.offset?_eq_none hp⟩,
    fun m f o hf => ⟨fun hfits hbehind => ?_, ?_⟩⟩, PageRequest.places_fit_iff _⟩
  · rintro ⟨hcounted, -, -⟩
    by_contra hfar
    rw [PageRequest.offset?_eq_none hp (by omega)] at hcounted
    cases hcounted
  · have hnonneg := hp.place_le.2
    have hlow : -(Nat.pow 2 63 : Int) ≤ p.place := by omega
    have hhigh : p.place ≤ (Nat.pow 2 63 - 1 : Nat) := by omega
    exact ⟨PageRequest.offset?_eq_place hp hfits, hnonneg,
      Text.IntegerType.holds_iff.mpr ⟨hlow, hhigh⟩⟩
  · by_contra hfits
    rw [PageRequest.offset?_eq_place hp (by omega)] at hnone
    cases hnone
  · exact m.run_query_behind limits storedAt o hp hf hbehind hfits
  · exact m.run_query_endless limits storedAt o hp hf

/-- A refund is on one page. Asked for the last page that can be named, the ledger does not answer. -/
theorem endless_page_breaks_off :
    let limits : Limits := { Limits.standard with maxPageSize := 4294967295 }
    let p : PageRequest := ⟨4294967295, 4294967295⟩
    let m := memoryAfter limits .empty [.refund ⟨1⟩ 0]
    Limits.read [("AUDIT_MAX_PAGE_SIZE", "4294967295")] = .ok limits ∧
      p.Admitted limits.maxPageSize ∧
      p.place = 18446744060824649730 ∧ p.offset? = none ∧
      pageCount (m.count .everything) p.pageSize = 1 ∧ m.records.length = 1 ∧
      ((Memory.ledger limits .epoch).query .everything p .recent).run m = (.ok none, m) := by
  intro limits p m
  have hread : Limits.read [("AUDIT_MAX_PAGE_SIZE", "4294967295")] = .ok limits := by rfl
  have hp : p.Admitted limits.maxPageSize := ⟨by decide, by decide, by decide⟩
  have hcount : m.count .everything = 1 := by decide +kernel
  have hpages : pageCount 1 p.pageSize = 1 := by decide
  have hfar : Nat.pow 2 63 ≤ p.place := by decide
  refine ⟨hread, hp, by decide, PageRequest.offset?_eq_none hp hfar, by rw [hcount, hpages],
    by decide +kernel, ?_⟩
  exact m.run_query_endless limits .epoch .recent hp rfl hfar

end EventLedger
