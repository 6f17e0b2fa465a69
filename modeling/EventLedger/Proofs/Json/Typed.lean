import EventLedger.Json.Scalar

/-!
# Readers of members

* `Reads`: a reader finds its value among named members, and what it takes of them;
* `Gives`, `Gives.of_typed`: what is known of every value that a reader finds;
* `RoundTrip`: values that are written and read.
-/

namespace EventLedger.Json

variable {α β : Type}

/-! ## What a reader finds -/

/-- The reader finds `a` among the named members `ms`. -/
def Reads (ms : List (String × Json)) (r : MemberReader α) (a : α) : Prop :=
  r (.named ms) = some (a, .named ms)

section Reads

variable {ms : List (String × Json)} {name : String} {read : Json → Option α} {a : α}

theorem Reads.pure (a : α) : Reads ms (Pure.pure a) a := rfl

theorem Reads.bind {r : MemberReader α} {f : α → MemberReader β} {b : β} (h : Reads ms r a)
    (hf : Reads ms (f a) b) : Reads ms (r >>= f) b := by
  show (r (.named ms) >>= fun p => f p.1 p.2) = _
  rw [h]
  exact hf

theorem nextMember_named (ms : List (String × Json)) (name : String) :
    nextMember name (.named ms) = some (ms.lookup name, .named ms) := rfl

theorem reads_required {j : Json} (hl : ms.lookup name = some j) (hr : read j = some a) :
    Reads ms (required name read) a := by
  refine Reads.bind (a := some j) ?_ ?_
  · rw [Reads, nextMember_named, hl]
  · show (read j).map (·, _) = _
    rw [hr]
    rfl

theorem reads_defaulted {j : Json} {default : α} (hl : ms.lookup name = some j)
    (hr : read j = some a) : Reads ms (defaulted name default read) a := by
  refine Reads.bind (a := some j) ?_ ?_
  · rw [Reads, nextMember_named, hl]
  · show (read j).map (·, _) = _
    rw [hr]
    rfl

theorem reads_missing {default : α} (hl : ms.lookup name = none) :
    Reads ms (defaulted name default read) default := by
  refine Reads.bind (a := none) ?_ rfl
  rw [Reads, nextMember_named, hl]

variable {o : Option α}

theorem orNull_orNullOf (write : α → Json) (h : ∀ a ∈ o, read (write a) = some a)
    (hn : ∀ a, write a ≠ .null) : orNull read (orNullOf write o) = some o := by
  cases o with
  | none => rfl
  | some a =>
    have h1 : orNull read (write a) = (read (write a)).map some := by
      unfold orNull
      split
      · rename_i he
        exact absurd he (hn a)
      · rfl
    rw [orNullOf, h1, h a rfl]
    rfl

theorem reads_orNullOf (write : α → Json) (hl : ms.lookup name = some (orNullOf write o))
    (h : ∀ a ∈ o, read (write a) = some a) (hn : ∀ a, write a ≠ .null) :
    Reads ms (optional name read) o := reads_defaulted hl (orNull_orNullOf write h hn)

theorem reads_whenPresent (write : α → Json) (hl : ms.lookup name = o.map write)
    (h : ∀ a ∈ o, read (write a) = some a) (hn : ∀ a, write a ≠ .null) :
    Reads ms (optional name read) o := by
  cases o with
  | none => exact reads_missing hl
  | some a => exact reads_defaulted hl (orNull_orNullOf write (o := some a) h hn)

theorem typed_of_reads {r : MemberReader α} (h : Reads ms r a) : typed r (.obj ms) = some a := by
  rw [typed, h]
  rfl

end Reads

/-! ## What is known of a value that is found -/

/-- Every value that the reader finds has the property. -/
def Gives (r : MemberReader α) (P : α → Prop) : Prop :=
  ∀ ⦃m a m'⦄, r m = some (a, m') → P a

section Gives

variable {name : String} {read : Json → Option α} {P : α → Prop} {Q : β → Prop}

theorem Gives.any (r : MemberReader α) : Gives r fun _ => True := fun _ _ _ _ => trivial

theorem Gives.pure {a : α} (h : P a) : Gives (Pure.pure a) P := by
  intro m b m' hb
  obtain ⟨rfl, -⟩ := Prod.mk.inj (Option.some.inj hb)
  exact h

theorem Gives.bind {r : MemberReader α} {f : α → MemberReader β} (h : Gives r P)
    (hf : ∀ a, P a → Gives (f a) Q) : Gives (r >>= f) Q := by
  intro m b m' hb
  obtain ⟨⟨a, m₁⟩, ha, hb⟩ := Option.bind_eq_some_iff.mp hb
  exact hf a (h ha) hb

theorem Gives.skip {r : MemberReader α} {f : α → MemberReader β} (hf : ∀ a, Gives (f a) Q) :
    Gives (r >>= f) Q := (Gives.any r).bind fun a _ => hf a

theorem gives_read (h : ∀ j a, read j = some a → P a) (j : Json) :
    Gives (fun m => (read j).map (·, m)) P := by
  intro m a m' ha
  obtain ⟨b, hb, he⟩ := Option.map_eq_some_iff.mp ha
  obtain ⟨rfl, -⟩ := Prod.mk.inj he
  exact h j b hb

theorem gives_required (h : ∀ j a, read j = some a → P a) : Gives (required name read) P := by
  refine Gives.skip fun o => ?_
  cases o with
  | none => exact fun _ _ _ hn => absurd hn nofun
  | some j => exact gives_read h j

theorem gives_defaulted {default : α} (hd : P default) (h : ∀ j a, read j = some a → P a) :
    Gives (defaulted name default read) P := by
  refine Gives.skip fun o => ?_
  cases o with
  | none => exact Gives.pure hd
  | some j => exact gives_read h j

theorem gives_optional (h : ∀ j a, read j = some a → P a) :
    Gives (optional name read) fun o => ∀ a ∈ o, P a := by
  refine gives_defaulted nofun fun j o ho a ha => ?_
  obtain rfl := Option.mem_def.mp ha
  unfold orNull at ho
  split at ho
  · cases ho
  · obtain ⟨b, hb, he⟩ := Option.map_eq_some_iff.mp ho
    obtain rfl := Option.some.inj he
    exact h _ _ hb

theorem Gives.of_typed {r : MemberReader α} (h : Gives r P) {j : Json} {a : α}
    (ha : typed r j = some a) : P a := by
  unfold typed at ha
  split at ha
  · obtain ⟨⟨b, m⟩, hb, rfl⟩ := Option.map_eq_some_iff.mp ha
    exact h hb
  · split at ha
    · rename_i hb
      obtain rfl := Option.some.inj ha
      exact h hb
    · cases ha
  · cases ha

end Gives

/-! ## Round trips -/

/-- What is read is read again after it has been written, and these are the values that are read
back. -/
structure RoundTrip (write : α → Json) (read : Json → Option α) (legible : α → Prop) : Prop where
  again : ∀ j, (read j).bind (fun a => read (write a)) = read j
  back_iff : ∀ a, read (write a) = some a ↔ legible a

theorem RoundTrip.of_legible {write : α → Json} {read : Json → Option α} {legible : α → Prop}
    (hr : ∀ {j a}, read j = some a → legible a) (hw : ∀ {a}, legible a → read (write a) = some a) :
    RoundTrip write read legible where
  again := by
    intro j
    cases h : read j with
    | none => rfl
    | some a => exact hw (hr h)
  back_iff := fun _ => ⟨hr, hw⟩

end EventLedger.Json
