import EventLedger.Dispatch.Registry

/-!
# The order of serving

Handlers are served by priority, lower numbers first, and by registration among equals.

* `Registration.Before`, `Registry.Serves`: the order, and the handlers of an event type in order;
* **`serves_handlersFor`**: they are served in this order;
* `Serves.unique`: where ordinals differ, the order leaves nothing open;
* `Registration.pairwise_mergeSort`: a stable sort by priority brings about this order.
-/

namespace EventLedger

variable {η : Type}

/-- A registration goes before another: by priority, and by registration among equals. -/
def Registration.Before (a b : Registration η) : Prop :=
  a.priority < b.priority ∨ (a.priority = b.priority ∧ a.ordinal ≤ b.ordinal)

theorem Registration.pairwise_mergeSort {rs : List (Registration η)}
    (h : rs.Pairwise fun a b => a.ordinal < b.ordinal) :
    (rs.mergeSort fun a b => a.priority ≤ b.priority).Pairwise Before := by
  have htrans : ∀ a b c : Registration η, decide (a.priority ≤ b.priority) = true →
      decide (b.priority ≤ c.priority) = true → decide (a.priority ≤ c.priority) = true := by
    intro a b c h1 h2
    rw [decide_eq_true_eq] at h1 h2 ⊢
    exact Int.le_trans h1 h2
  have htotal : ∀ a b : Registration η,
      (decide (a.priority ≤ b.priority) || decide (b.priority ≤ a.priority)) = true := by
    intro a b
    rw [Bool.or_eq_true, decide_eq_true_eq, decide_eq_true_eq]
    exact Int.le_total _ _
  rw [← List.mergeSort_zipIdx, List.pairwise_map]
  refine (List.pairwise_mergeSort (List.zipIdxLE_trans htrans) (List.zipIdxLE_total htotal)
    rs.zipIdx).imp_of_mem fun {x y} hx hy hxy => ?_
  -- the places of two registrations in the list decide between equals
  obtain ⟨hi, hx⟩ := List.getElem?_eq_some_iff.mp
    (List.mem_zipIdx_iff_getElem?.mp (List.mem_mergeSort.mp hx))
  obtain ⟨hj, hy⟩ := List.getElem?_eq_some_iff.mp
    (List.mem_zipIdx_iff_getElem?.mp (List.mem_mergeSort.mp hy))
  have hplace : x.2 ≤ y.2 → x.1.ordinal ≤ y.1.ordinal := by
    intro hle
    rcases Nat.lt_or_eq_of_le hle with hlt | heq
    · rw [← hx, ← hy]
      exact Nat.le_of_lt (List.pairwise_iff_getElem.mp h x.2 y.2 hi hj hlt)
    · have h1 : x.1 = y.1 := by
        rw [← hx, ← hy]
        simp only [heq]
      exact Nat.le_of_eq (congrArg Registration.ordinal h1)
  simp only [List.zipIdxLE, decide_eq_true_eq] at hxy
  rw [Before]
  split at hxy
  · split at hxy
    · have h1 := hplace (by simpa using hxy)
      omega
    · omega
  · cases hxy

namespace Registry

/-- These are the handlers that an event type is delivered to, in order. -/
structure Serves (g : Registry η) (eventType : String) (handlers : List (Registration η)) :
    Prop where
  /-- Nobody is left out or served twice. -/
  all : handlers.Perm (g.specific eventType ++ g.wildcard)
  ordered : handlers.Pairwise Registration.Before

theorem servedBefore_iff (a b : Registration η) : servedBefore a b = true ↔ a.Before b := by
  simp only [servedBefore, Registration.Before, Bool.or_eq_true, Bool.and_eq_true, decide_eq_true_eq,
    beq_iff_eq]

theorem servedBefore_trans (a b c : Registration η) (h1 : servedBefore a b = true)
    (h2 : servedBefore b c = true) : servedBefore a c = true := by
  rw [servedBefore_iff, Registration.Before] at h1 h2 ⊢
  omega

theorem servedBefore_total (a b : Registration η) :
    (servedBefore a b || servedBefore b a) = true := by
  rw [Bool.or_eq_true, servedBefore_iff, servedBefore_iff, Registration.Before,
    Registration.Before]
  omega

/-- **Handlers are served in order.** -/
theorem serves_handlersFor (g : Registry η) (eventType : String) :
    g.Serves eventType (g.handlersFor eventType) where
  all := List.mergeSort_perm _ _
  ordered := by
    have h1 : (g.handlersFor eventType).Pairwise fun a b => servedBefore a b = true :=
      List.pairwise_mergeSort servedBefore_trans servedBefore_total _
    exact h1.imp fun h2 => (servedBefore_iff _ _).mp h2

theorem Serves.unique {g : Registry η} {eventType : String} {handlers others : List (Registration η)}
    (h : g.Serves eventType handlers) (ho : g.Serves eventType others)
    (hd : ∀ a ∈ handlers, ∀ b ∈ handlers, a.ordinal = b.ordinal → a = b) : handlers = others := by
  have h1 : handlers.Perm others := h.all.trans ho.all.symm
  refine h1.eq_of_pairwise (fun a b ha hb hab hba => ?_) h.ordered ho.ordered
  refine hd a ha b (h1.mem_iff.mpr hb) ?_
  rw [Registration.Before] at hab hba
  omega

end Registry

end EventLedger
