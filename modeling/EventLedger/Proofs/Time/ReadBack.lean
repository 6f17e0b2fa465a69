import EventLedger.Proofs.Text.Numbers
import EventLedger.Proofs.Time.Linear
import EventLedger.Proofs.Time.Written
import EventLedger.Time.Reader

/-!
# Written instants are read back

The form in JSON documents is read as the instant that was written, whatever its year, its fraction and
whether it lies in a leap second, as long as it lies in the calendar.

* `digits_append`, `allDigits_padded`: numbers in front of other characters;
* `field_padded`, `year_yearText`, `fraction_fractionText`: the parts of an instant;
* `parts_wireText`: date, time of day and offset;
* `ofLocal_parts`: the instant of these;
* **`read_wireText`**, `inCalendar_of_read`: what is read back.
-/

namespace EventLedger

open Text (padded digit?_of_isDigit isDigit_of_digit? isBlank_of_isDigit)

/-! ## Digits -/

namespace Instant

theorem bind_ok {α β : Type} {r : Reader α} {f : α → Reader β} {cs rest : List Char} {a : α}
    (h : r cs = .ok (a, rest)) : (r >>= f) cs = f a rest := by
  show (r cs >>= fun p => f p.1 p.2) = f a rest
  rw [h]
  rfl

/-- What follows does not begin with a digit. -/
def NoDigit (cs : List Char) : Prop := ∀ c rest, cs = c :: rest → c.isDigit = false

theorem noDigit_cons {c : Char} (h : c.isDigit = false) (rest : List Char) : NoDigit (c :: rest) := by
  intro d ds he
  obtain ⟨rfl, rfl⟩ := List.cons.inj he
  exact h

theorem moreDigits_append {ds rest : List Char} {width acc : Nat}
    (hd : ∀ c ∈ ds, c.isDigit = true) (hw : ds.length ≤ width)
    (hr : ds.length = width ∨ NoDigit rest) :
    moreDigits width acc (ds ++ rest) = (Nat.ofDigitChars 10 ds acc, rest) := by
  induction ds generalizing width acc with
  | nil =>
    cases width with
    | zero => rfl
    | succ width =>
      cases rest with
      | nil => rfl
      | cons c rest =>
        have hc : Text.digit? c = none := by
          rcases hr with hr | hr
          · cases hr
          · cases h : Text.digit? c with
            | none => rfl
            | some d => exact absurd (isDigit_of_digit? h) (by rw [hr c rest rfl]; decide)
        simp [moreDigits, hc]
  | cons c ds ih =>
    cases width with
    | zero => exact absurd hw (Nat.not_succ_le_zero _)
    | succ width =>
      obtain ⟨hc, hds⟩ := List.forall_mem_cons.mp hd
      have hr' : ds.length = width ∨ NoDigit rest := hr.imp_left Nat.succ.inj
      rw [List.cons_append, moreDigits, digit?_of_isDigit hc]
      simp only [ih hds (Nat.le_of_succ_le_succ hw) hr', Nat.ofDigitChars_cons, Nat.mul_comm]

theorem digits_append {ds rest : List Char} {width : Nat} (hne : ds ≠ [])
    (hd : ∀ c ∈ ds, c.isDigit = true) (hw : ds.length ≤ width)
    (hr : ds.length = width ∨ NoDigit rest) :
    digits width (ds ++ rest) = .ok (Nat.ofDigitChars 10 ds 0, rest) := by
  obtain ⟨c, ds, rfl⟩ := List.exists_cons_of_ne_nil hne
  obtain ⟨hc, hds⟩ := List.forall_mem_cons.mp hd
  have hw' : ds.length ≤ width - 1 := Nat.le_sub_one_of_lt hw
  have hr' : ds.length = width - 1 ∨ NoDigit rest := by
    refine hr.imp_left fun h => ?_
    rw [← h]
    rfl
  simp only [List.cons_append, digits, digit?_of_isDigit hc, moreDigits_append hds hw' hr',
    Nat.ofDigitChars_cons, Nat.mul_zero, Nat.zero_add]

theorem length_padded {width n : Nat} (hw : 0 < width) (h : n < Nat.pow 10 width) :
    (padded width n).toList.length = width := by
  have h1 : (Nat.toDigits 10 n).length ≤ width := (Nat.length_toDigits_le_iff (by decide) hw).mpr h
  simp only [padded, String.toList_ofList, List.length_append, List.length_replicate]
  omega

theorem digits_padded {width n : Nat} (hw : 0 < width) (h : n < Nat.pow 10 width)
    (rest : List Char) : digits width ((padded width n).toList ++ rest) = .ok (n, rest) := by
  have hlength := length_padded hw h
  have h1 : digits width ((padded width n).toList ++ rest) = .ok (_, rest) :=
    digits_append (Text.padded_ne_nil width n) (fun c hc => Text.isDigit_of_mem_padded hc)
      (Nat.le_of_eq hlength) (Or.inl hlength)
  rwa [Text.ofDigitChars_padded] at h1

theorem allDigits_padded (width n : Nat) {rest : List Char} (hr : NoDigit rest) :
    allDigits ((padded width n).toList ++ rest) = .ok (n, rest) := by
  have h1 := digits_append (Text.padded_ne_nil width n) (fun c hc => Text.isDigit_of_mem_padded hc)
    (by simp : _ ≤ ((padded width n).toList ++ rest).length) (Or.inr hr)
  rwa [Text.ofDigitChars_padded] at h1

/-! ## Blanks and separators -/

theorem skipBlank_cons {c : Char} (h : Text.isBlank c = false) (rest : List Char) :
    skipBlank (c :: rest) = .ok ((), c :: rest) := by
  simp [skipBlank, Text.trimStart, h]

theorem skipBlank_padded (width n : Nat) (rest : List Char) :
    skipBlank ((padded width n).toList ++ rest) = .ok ((), (padded width n).toList ++ rest) := by
  obtain ⟨c, cs, hc⟩ := List.exists_cons_of_ne_nil (Text.padded_ne_nil width n)
  have h1 : c.isDigit = true := Text.isDigit_of_mem_padded (hc ▸ List.mem_cons_self)
  rw [hc]
  exact skipBlank_cons (isBlank_of_isDigit h1) _

theorem separator_cons {c : Char} (h : Text.isBlank c = false) (rest : List Char) :
    separator c (c :: rest) = .ok ((), rest) := by
  rw [separator, bind_ok (skipBlank_cons h rest), literal, if_pos rfl]

/-! ## Parts -/

theorem field_padded {least most n : Nat} (h : n < 100) (hl : least ≤ n) (hm : n ≤ most)
    (rest : List Char) : field least most ((padded 2 n).toList ++ rest) = .ok (n, rest) := by
  rw [field, bind_ok (skipBlank_padded 2 n rest), bind_ok (digits_padded (by decide) h rest),
    if_pos ⟨hl, hm⟩]
  rfl

theorem unboundedYear_yearText (y : Int) {rest : List Char} (hr : NoDigit rest) :
    unboundedYear ((yearText y).toList ++ rest) = .ok (y, rest) := by
  rw [toList_yearText]
  split
  · rename_i h
    have h1 : digits 4 ((padded 4 y.toNat).toList ++ rest) = .ok (y.toNat, rest) :=
      digits_padded (by decide) (by show _ < 10000; omega) rest
    have h2 : ∀ c, c.isDigit = false → ∀ cs, (padded 4 y.toNat).toList ++ rest ≠ c :: cs :=
      fun c hc => padded_append_ne_cons hc 4 _ rest
    rw [unboundedYear, h1]
    · show Except.ok ((y.toNat : Int), rest) = _
      rw [Int.toNat_of_nonneg h.1]
    · exact h2 '-' rfl
    · exact h2 '+' rfl
  · rename_i h
    split
    · rename_i hneg
      show (allDigits ((padded 4 y.natAbs).toList ++ rest)).map _ = _
      rw [allDigits_padded 4 _ hr]
      show Except.ok (-(y.natAbs : Int), rest) = _
      rw [show -(y.natAbs : Int) = y by omega]
    · rename_i hneg
      show (allDigits ((padded 4 y.natAbs).toList ++ rest)).map _ = _
      rw [allDigits_padded 4 _ hr]
      show Except.ok ((y.natAbs : Int), rest) = _
      rw [show (y.natAbs : Int) = y by omega]

theorem isBlank_sign (y : Int) : Text.isBlank (if y < 0 then '-' else '+') = false := by
  split <;> rfl

/-- **A year is read back**, with its sign. -/
theorem year_yearText {y : Int} (h : Text.i32.holds y = true) {rest : List Char} (hr : NoDigit rest) :
    year ((yearText y).toList ++ rest) = .ok (y, rest) := by
  have hblank : skipBlank ((yearText y).toList ++ rest) = .ok ((), (yearText y).toList ++ rest) := by
    rw [toList_yearText]
    split
    · exact skipBlank_padded 4 _ rest
    · exact skipBlank_cons (isBlank_sign y) _
  rw [year, bind_ok hblank, bind_ok (unboundedYear_yearText y hr), if_pos h]
  rfl

theorem fraction_padded {width n : Nat} (hw : 0 < width) (hw9 : width ≤ 9)
    (h : n < Nat.pow 10 width) {rest : List Char} (hr : NoDigit rest) :
    fraction ('.' :: ((padded width n).toList ++ rest)) = .ok (n * Nat.pow 10 (9 - width), rest) := by
  have hlength := length_padded hw h
  have h1 := digits_append (Text.padded_ne_nil width n) (fun c hc => Text.isDigit_of_mem_padded hc)
    (hlength ▸ hw9) (Or.inr hr)
  rw [Text.ofDigitChars_padded] at h1
  have h2 : ((padded width n).toList ++ rest).length - rest.length = width := by
    rw [List.length_append, hlength, Nat.add_sub_cancel]
  have h3 : rest.dropWhile (fun c => (Text.digit? c).isSome) = rest := by
    cases rest with
    | nil => rfl
    | cons c rest =>
      refine List.dropWhile_cons_of_neg fun hc => ?_
      obtain ⟨d, hd⟩ := Option.isSome_iff_exists.mp hc
      exact absurd (isDigit_of_digit? hd) (by rw [hr c rest rfl]; decide)
  show (digits 9 ((padded width n).toList ++ rest) >>= fun p => Except.ok
    (p.1 * Nat.pow 10 (9 - (((padded width n).toList ++ rest).length - p.2.length)),
      p.2.dropWhile fun c => (Text.digit? c).isSome)) = _
  rw [h1]
  show Except.ok (n * Nat.pow 10 (9 - (((padded width n).toList ++ rest).length - rest.length)),
    rest.dropWhile fun c => (Text.digit? c).isSome) = _
  rw [h2, h3]

/-- **The nanoseconds are read back** from the digits that are written of them. -/
theorem fraction_fractionText (t : Instant) :
    fraction ((fractionText .fewest t).toList ++ ['Z']) = .ok (t.writtenNanos, ['Z']) := by
  have hZ : NoDigit ['Z'] := noDigit_cons rfl _
  have hdot : ∀ s : String, ("." ++ s).toList ++ ['Z'] = '.' :: (s.toList ++ ['Z']) := fun s => by
    rw [String.toList_append]
    rfl
  have hbound : t.writtenNanos < 1000000000 := Nat.mod_lt _ (by decide)
  unfold fractionText
  generalize t.writtenNanos = n at hbound
  dsimp only
  split
  · rename_i h
    rw [h]
    rfl
  · split
    · rw [hdot, fraction_padded (by decide) (by decide) (by show _ < 1000; omega) hZ]
      show Except.ok (n / 1000000 * 1000000, _) = _
      rw [Nat.div_mul_cancel (Nat.dvd_of_mod_eq_zero ‹_›)]
    · split
      · rw [hdot, fraction_padded (by decide) (by decide) (by show _ < 1000000; omega) hZ]
        show Except.ok (n / 1000 * 1000, _) = _
        rw [Nat.div_mul_cancel (Nat.dvd_of_mod_eq_zero ‹_›)]
      · rw [hdot, fraction_padded (by decide) (by decide) hbound hZ]
        show Except.ok (n * 1, _) = _
        rw [Nat.mul_one]

/-! ## The whole text -/

theorem toList_wireText (t : Instant) :
    t.wireText.toList =
      (yearText t.date.year).toList ++ '-' :: ((padded 2 t.date.month).toList ++ '-' ::
        ((padded 2 t.date.day).toList ++ 'T' :: ((padded 2 (t.secondOfDay / 3600)).toList ++ ':' ::
          ((padded 2 (t.secondOfDay / 60 % 60)).toList ++ ':' ::
            ((padded 2 t.writtenSecond).toList ++
              ((fractionText .fewest t).toList ++ ['Z'])))))) := by
  simp [wireText, textWith, Date.text, timeText]

theorem holds_year {y : Int} (h : Date.earliestYear ≤ y ∧ y ≤ Date.latestYear) :
    Text.i32.holds y = true := by
  have h1 : Text.i32.holds y = (decide (-2147483648 ≤ y) && decide (y ≤ 2147483647)) := rfl
  have h2 : -262143 ≤ y ∧ y ≤ 262142 := h
  simp [h1]
  omega

theorem valid_date (t : Instant) : t.date.valid = true := Date.valid_ofDayNumber _

/-- The parts of the written form. -/
def writtenTime (t : Instant) : TimeOfDay :=
  ⟨t.secondOfDay / 3600 * 60 + t.secondOfDay / 60 % 60, t.writtenSecond, t.writtenNanos⟩

theorem writtenSecond_le (t : Instant) : t.writtenSecond ≤ 60 := by
  have h := t.inSecond
  have h1 : t.secondOfDay % 60 = (t.seconds % 60).toNat := by unfold secondOfDay; omega
  unfold writtenSecond
  omega

theorem parts_wireText {t : Instant} (h : t.inCalendar = true) :
    parts t.wireText.toList = .ok ((t.date, t.writtenTime, 0), []) := by
  have hyear : Date.earliestYear ≤ t.date.year ∧ t.date.year ≤ Date.latestYear := by
    simpa [inCalendar, Date.inCalendar] using h
  have hvalid : 1 ≤ t.date.month ∧ t.date.month ≤ 12 ∧ 1 ≤ t.date.day ∧
      t.date.day ≤ Date.daysInMonth t.date.year t.date.month := by
    simpa [Date.valid, and_assoc] using t.valid_date
  have hday : t.date.day ≤ 31 := by
    refine Nat.le_trans hvalid.2.2.2 ?_
    unfold Date.daysInMonth
    split
    · split <;> decide
    · split <;> decide
  have hsecond : t.secondOfDay < 86400 := by unfold secondOfDay; omega
  have hwritten := t.writtenSecond_le
  have hdash : ∀ rest, NoDigit ('-' :: rest) := noDigit_cons rfl
  rw [toList_wireText]
  have hdate : ∀ rest, dateInFront ((yearText t.date.year).toList ++ '-' ::
      ((padded 2 t.date.month).toList ++ '-' :: ((padded 2 t.date.day).toList ++ rest))) =
      .ok (t.date, rest) := by
    intro rest
    rw [dateInFront, bind_ok (year_yearText (holds_year hyear) (hdash _)),
      bind_ok (separator_cons rfl _),
      bind_ok (field_padded (by omega) hvalid.1 hvalid.2.1 _), bind_ok (separator_cons rfl _),
      bind_ok (field_padded (by omega) hvalid.2.2.1 hday _)]
    rfl
  have htime : timeInFront ((padded 2 (t.secondOfDay / 3600)).toList ++ ':' ::
      ((padded 2 (t.secondOfDay / 60 % 60)).toList ++ ':' ::
        ((padded 2 t.writtenSecond).toList ++ ((fractionText .fewest t).toList ++ ['Z'])))) =
      .ok (t.writtenTime, ['Z']) := by
    rw [timeInFront, bind_ok (field_padded (by omega) (Nat.zero_le _) (by omega) _),
      bind_ok (separator_cons rfl _),
      bind_ok (field_padded (by omega) (Nat.zero_le _) (by omega) _), bind_ok (separator_cons rfl _),
      bind_ok (field_padded (by omega) (Nat.zero_le _) hwritten _),
      bind_ok (fraction_fractionText t)]
    rfl
  have hbetween : ∀ rest, between ('T' :: rest) = .ok ((), rest) := fun _ => rfl
  rw [parts, bind_ok (hdate _), bind_ok (hbetween _), bind_ok htime]
  rfl

theorem ofLocal_parts {t : Instant} (h : t.inCalendar = true) :
    ofLocal t.date t.writtenTime 0 = .ok t := by
  have hin := t.inSecond
  have hdays : t.date.dayNumber = t.dayNumber := Date.dayNumber_ofDayNumber _
  have hparts : ofParts (t.date.dayNumber * 1440 + t.writtenTime.minute - 0 / 60)
      t.writtenTime.second t.writtenTime.nanos = some t := by
    have hminute : (t.dayNumber * 1440 + (t.writtenTime.minute : Int) - 0 / 60) * 60 +
        (t.secondOfDay % 60 : Nat) = t.seconds := by
      simp only [writtenTime, dayNumber, secondOfDay]
      omega
    rw [hdays]
    generalize t.dayNumber * 1440 + (t.writtenTime.minute : Int) - 0 / 60 = minute at hminute
    have hsecond : t.writtenTime.second = t.secondOfDay % 60 + t.nanos / 1000000000 := rfl
    have hnanos : t.writtenTime.nanos = t.nanos % 1000000000 := rfl
    have hminutes : t.secondOfDay % 60 = (t.seconds % 60).toNat := by unfold secondOfDay; omega
    unfold ofParts
    by_cases hleap : t.nanos < 1000000000
    · rw [dif_pos (by omega)]
      refine congrArg some (eq_of_parts ?_ ?_)
      · show minute * 60 + (t.writtenTime.second : Int) = t.seconds
        omega
      · show t.writtenTime.nanos = t.nanos
        omega
    · rw [dif_neg (by omega), dif_pos (by omega)]
      refine congrArg some (eq_of_parts ?_ ?_)
      · show minute * 60 + 59 = t.seconds
        omega
      · show t.writtenTime.nanos + 1000000000 = t.nanos
        omega
  have hcalendar : t.date.inCalendar = true := h
  rw [ofLocal, if_pos ⟨t.valid_date, hcalendar, by decide⟩, hparts]
  exact if_pos h

/-- **A written instant is read back.** -/
theorem read_wireText {t : Instant} (h : t.inCalendar = true) : read t.wireText = .ok t := by
  show (parts t.wireText.toList >>= fun p => ofLocal p.1.1 p.1.2.1 p.1.2.2) = _
  rw [parts_wireText h]
  exact ofLocal_parts h

theorem inCalendar_of_read {s : String} {t : Instant} (h : read s = .ok t) : t.inCalendar = true := by
  have h1 : (parts s.toList >>= fun p => ofLocal p.1.1 p.1.2.1 p.1.2.2) = .ok t := h
  cases hp : parts s.toList with
  | error e =>
    rw [hp] at h1
    cases h1
  | ok p =>
    rw [hp] at h1
    have h2 : ofLocal p.1.1 p.1.2.1 p.1.2.2 = .ok t := h1
    unfold ofLocal at h2
    split at h2
    · split at h2
      · split at h2
        · obtain rfl := Except.ok.inj h2
          assumption
        · cases h2
      · cases h2
    · cases h2

end Instant

end EventLedger
