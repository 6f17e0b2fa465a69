import EventLedger.Proofs.Sql.Table
import Mathlib.Data.List.Basic

/-!
# Patterns and the texts they stand for

A pattern is a row of elements: letters, single characters left open, and stretches left open. It is
matched by trying every stretch. A text whose marks are escaped is a row of letters, and so the only
stretches left open in the patterns of a filter are those around what was asked for.

* `Element`, `elements?`: a pattern taken apart;
* `Spells`, **`likes_iff`**: the texts of a pattern, and the match that finds them;
* `elements?_escape_append`, `likes_startPattern`, `likes_partPattern`: escaped texts;
* **`filter_texts_taken_literally`**.
-/

namespace EventLedger

namespace Sql.Pattern

/-! ## Elements -/

/-- A part of a pattern. -/
inductive Element where
  /-- Any characters in a row, or none. -/
  | stretch
  /-- Any one character. -/
  | any
  | letter (c : Char)
  deriving DecidableEq

/-- The elements of a pattern. A backslash needs a character behind it. -/
def elements? : List Char → Option (List Element)
  | [] => some []
  | ['\\'] => none
  | '\\' :: c :: pattern => (elements? pattern).map (.letter c :: ·)
  | '%' :: pattern => (elements? pattern).map (.stretch :: ·)
  | '_' :: pattern => (elements? pattern).map (.any :: ·)
  | c :: pattern => (elements? pattern).map (.letter c :: ·)

/-- The elements stand for a text. -/
inductive Spells : List Element → List Char → Prop
  | nil : Spells [] []
  | stretch {es : List Element} {cs : List Char} (skipped : List Char) (h : Spells es cs) :
      Spells (.stretch :: es) (skipped ++ cs)
  | any {es : List Element} {cs : List Char} (c : Char) (h : Spells es cs) :
      Spells (.any :: es) (c :: cs)
  | letter {es : List Element} {cs : List Char} (c : Char) (h : Spells es cs) :
      Spells (.letter c :: es) (c :: cs)

section Spells

variable {es : List Element} {cs : List Char}

theorem spells_nil_iff : Spells [] cs ↔ cs = [] := by
  constructor
  · rintro ⟨⟩
    rfl
  · rintro rfl
    exact .nil

theorem spells_stretch_iff :
    Spells (.stretch :: es) cs ↔ ∃ skipped rest, cs = skipped ++ rest ∧ Spells es rest := by
  constructor
  · rintro (_ | ⟨skipped, h⟩)
    exact ⟨skipped, _, rfl, h⟩
  · rintro ⟨skipped, rest, rfl, h⟩
    exact .stretch skipped h

theorem spells_any_iff : Spells (.any :: es) cs ↔ ∃ c rest, cs = c :: rest ∧ Spells es rest := by
  constructor
  · rintro (_ | _ | ⟨c, h⟩)
    exact ⟨c, _, rfl, h⟩
  · rintro ⟨c, rest, rfl, h⟩
    exact .any c h

theorem spells_letter_iff {c : Char} :
    Spells (.letter c :: es) cs ↔ ∃ rest, cs = c :: rest ∧ Spells es rest := by
  constructor
  · rintro (_ | _ | _ | ⟨_, h⟩)
    exact ⟨_, rfl, h⟩
  · rintro ⟨rest, rfl, h⟩
    exact .letter c h

end Spells

/-! ## Matching -/

section Matching

variable {p : Char → Bool} {q : List Char → Bool} {cs : List Char}

theorem someEnd_iff : someEnd q cs = true ↔ ∃ skipped rest, cs = skipped ++ rest ∧ q rest = true := by
  induction cs with
  | nil =>
    constructor
    · exact fun h => ⟨[], [], rfl, h⟩
    · rintro ⟨skipped, rest, h, hq⟩
      obtain ⟨rfl, rfl⟩ := List.append_eq_nil_iff.mp h.symm
      exact hq
  | cons c cs ih =>
    rw [someEnd, Bool.or_eq_true, ih]
    constructor
    · rintro (h | ⟨skipped, rest, rfl, h⟩)
      · exact ⟨[], c :: cs, rfl, h⟩
      · exact ⟨c :: skipped, rest, rfl, h⟩
    · rintro ⟨skipped, rest, h, hq⟩
      cases skipped with
      | nil => exact .inl (h ▸ hq)
      | cons a skipped =>
        obtain ⟨rfl, rfl⟩ := List.cons.inj h
        exact .inr ⟨skipped, rest, rfl, hq⟩

theorem firstIs_iff :
    firstIs p q cs = true ↔ ∃ c rest, cs = c :: rest ∧ p c = true ∧ q rest = true := by
  cases cs with
  | nil => simp [firstIs]
  | cons a cs =>
    rw [firstIs, Bool.and_eq_true]
    constructor
    · exact fun h => ⟨a, cs, rfl, h⟩
    · rintro ⟨c, rest, h, hpq⟩
      obtain ⟨rfl, rfl⟩ := List.cons.inj h
      exact hpq

end Matching

/-- The match of an element, and of what is behind it by `q`. -/
def Element.likes (q : List Char → Bool) : Element → List Char → Bool
  | .stretch => someEnd q
  | .any => firstIs (fun _ => true) q
  | .letter c => firstIs (· == c) q

theorem Element.likes_iff {q : List Char → Bool} {es? : Option (List Element)}
    (h : ∀ cs, q cs = true ↔ ∃ es, es? = some es ∧ Spells es cs) (e : Element) (cs : List Char) :
    e.likes q cs = true ↔ ∃ es, es?.map (e :: ·) = some es ∧ Spells es cs := by
  simp only [Option.map_eq_some_iff]
  cases e with
  | stretch =>
    simp only [Element.likes, someEnd_iff, h]
    constructor
    · rintro ⟨skipped, rest, rfl, es, rfl, hes⟩
      exact ⟨_, ⟨es, rfl, rfl⟩, .stretch skipped hes⟩
    · rintro ⟨_, ⟨es, rfl, rfl⟩, hes⟩
      obtain ⟨skipped, rest, rfl, hrest⟩ := spells_stretch_iff.mp hes
      exact ⟨skipped, rest, rfl, es, rfl, hrest⟩
  | any =>
    simp only [Element.likes, firstIs_iff, h]
    constructor
    · rintro ⟨c, rest, rfl, -, es, rfl, hes⟩
      exact ⟨_, ⟨es, rfl, rfl⟩, .any c hes⟩
    · rintro ⟨_, ⟨es, rfl, rfl⟩, hes⟩
      obtain ⟨c, rest, rfl, hrest⟩ := spells_any_iff.mp hes
      exact ⟨c, rest, rfl, trivial, es, rfl, hrest⟩
  | letter c =>
    simp only [Element.likes, firstIs_iff, h, beq_iff_eq]
    constructor
    · rintro ⟨c, rest, rfl, rfl, es, rfl, hes⟩
      exact ⟨_, ⟨es, rfl, rfl⟩, .letter c hes⟩
    · rintro ⟨_, ⟨es, rfl, rfl⟩, hes⟩
      obtain ⟨rest, rfl, hrest⟩ := spells_letter_iff.mp hes
      exact ⟨c, rest, rfl, rfl, es, rfl, hrest⟩

section Plain

variable {c : Char} (hb : c ≠ '\\') (hp : c ≠ '%') (hu : c ≠ '_') (pattern : List Char)

include hb hp hu

theorem likes_plain : likes (c :: pattern) = (Element.letter c).likes (likes pattern) := by
  funext cs
  rw [likes] <;> simp_all [Element.likes]

theorem elements?_plain :
    elements? (c :: pattern) = (elements? pattern).map (.letter c :: ·) := by
  rw [elements?] <;> simp_all

end Plain

/-- **A pattern matches the texts that its elements stand for.** -/
theorem likes_iff (pattern cs : List Char) :
    likes pattern cs = true ↔ ∃ es, elements? pattern = some es ∧ Spells es cs := by
  induction pattern using elements?.induct generalizing cs with
  | case1 =>
    simp only [elements?, Option.some.injEq, exists_eq_left', spells_nil_iff, likes,
      List.isEmpty_iff]
  | case2 => simp [likes, elements?]
  | case3 c pattern ih => exact Element.likes_iff ih (.letter c) cs
  | case4 pattern ih => exact Element.likes_iff ih .stretch cs
  | case5 pattern ih => exact Element.likes_iff ih .any cs
  | case6 c pattern hend hb hp hu ih =>
    have hplain : c ≠ '\\' := by
      rintro rfl
      cases pattern with
      | nil => exact hend rfl rfl
      | cons a pattern => exact hb a pattern rfl rfl
    rw [likes_plain hplain hp hu, elements?_plain hplain hp hu]
    exact Element.likes_iff ih (.letter c) cs

/-! ## Escaped texts -/

theorem elements?_escapeChar_append (c : Char) (pattern : List Char) :
    elements? (escapeChar c ++ pattern) = (elements? pattern).map (.letter c :: ·) := by
  unfold escapeChar
  split
  · rfl
  · rename_i h
    simp only [not_or] at h
    exact elements?_plain h.2.2 h.1 h.2.1 pattern

/-- **An escaped text is a row of letters**, whatever stands behind it. -/
theorem elements?_escape_append (v pattern : List Char) :
    elements? (escape v ++ pattern) = (elements? pattern).map (v.map .letter ++ ·) := by
  induction v with
  | nil => exact (Option.map_id_apply).symm
  | cons c v ih =>
    have h : escape (c :: v) = escapeChar c ++ escape v := rfl
    rw [h, List.append_assoc, elements?_escapeChar_append, ih, Option.map_map]
    rfl

theorem spells_letters_append {v cs : List Char} {es : List Element} :
    Spells (v.map .letter ++ es) cs ↔ ∃ rest, cs = v ++ rest ∧ Spells es rest := by
  induction v generalizing cs with
  | nil => simp
  | cons c v ih =>
    rw [List.map_cons, List.cons_append, spells_letter_iff]
    simp only [ih]
    constructor
    · rintro ⟨_, rfl, rest, rfl, h⟩
      exact ⟨rest, rfl, h⟩
    · rintro ⟨rest, rfl, h⟩
      exact ⟨v ++ rest, rfl, rest, rfl, h⟩

theorem spells_letters_stretch {v cs : List Char} :
    Spells (v.map .letter ++ [.stretch]) cs ↔ v <+: cs := by
  have hany : ∀ rest, Spells [.stretch] rest := fun rest =>
    spells_stretch_iff.mpr ⟨rest, [], (List.append_nil rest).symm, .nil⟩
  rw [spells_letters_append]
  exact ⟨fun ⟨rest, h, _⟩ => ⟨rest, h.symm⟩, fun ⟨rest, h⟩ => ⟨rest, h.symm, hany rest⟩⟩

theorem elements?_startPattern (start : String) :
    elements? (startPattern start).toList = some (start.toList.map .letter ++ [.stretch]) := by
  rw [startPattern, String.toList_ofList, elements?_escape_append]
  rfl

theorem elements?_partPattern (part : String) :
    elements? (partPattern part).toList =
      some (.stretch :: (part.toList.map .letter ++ [.stretch])) := by
  have h : elements? ('%' :: (escape part.toList ++ ['%'])) =
    (elements? (escape part.toList ++ ['%'])).map (.stretch :: ·) := rfl
  rw [partPattern, String.toList_ofList, List.cons_append, h, elements?_escape_append]
  rfl

/-- **The pattern of a start** matches the texts that begin with it. -/
theorem likes_startPattern (start s : String) :
    likes (startPattern start).toList s.toList = true ↔ start.toList <+: s.toList := by
  simp only [likes_iff, elements?_startPattern, Option.some.injEq, exists_eq_left',
    spells_letters_stretch]

/-- **The pattern of a part** matches the texts that contain it. -/
theorem likes_partPattern (part s : String) :
    likes (partPattern part).toList s.toList = true ↔ part.toList <:+: s.toList := by
  simp only [likes_iff, elements?_partPattern, Option.some.injEq, exists_eq_left',
    spells_stretch_iff, spells_letters_stretch, List.infix_iff_prefix_suffix]
  constructor
  · rintro ⟨skipped, rest, h, hprefix⟩
    exact ⟨rest, hprefix, skipped, h.symm⟩
  · rintro ⟨rest, hprefix, skipped, h⟩
    exact ⟨skipped, rest, h.symm, hprefix⟩

end Sql.Pattern

namespace Sql

open Pattern

/-! ## The patterns of a filter -/

theorem truth_startPattern {d : Dialect} {t : Tuple} {c : Column} {s : String} (h : t c = .text s)
    (start : String) :
    (Condition.like c (startPattern start)).truth d t = some (startsWith start s) := by
  have hlikes : Pattern.likes (startPattern start).toList s.toList = startsWith start s := by
    rw [Bool.eq_iff_iff, likes_startPattern, startsWith, List.isPrefixOf_iff_prefix]
  rw [Condition.truth, h, Value.text?, Option.map_some, hlikes]

theorem oneOf?_eq_some_iff {c : Column} {ts : List String} {cond : Condition} :
    oneOf? c ts = some cond ↔ ts ≠ [] ∧ .oneOf c ts = cond := by
  cases ts <;> simp [oneOf?]

theorem like_mem_conditions {f : Filter} {c : Column} {p : String} :
    .like c p ∈ conditions f ↔ c = .category ∧ ∃ start ∈ f.category, p = startPattern start := by
  simp only [conditions, List.mem_filterMap, id, possibleConditions, List.exists_mem_cons_iff,
    oneOf?_eq_some_iff, Option.map_eq_some_iff, reduceCtorEq, and_false, exists_false, false_or,
    List.not_mem_nil, false_and, or_false, Condition.like.injEq]
  constructor
  · rintro ⟨start, hstart, rfl, rfl⟩
    exact ⟨rfl, start, hstart, rfl⟩
  · rintro ⟨rfl, start, hstart, rfl⟩
    exact ⟨start, hstart, rfl, rfl⟩

theorem mentions_mem_conditions {f : Filter} {p : String} :
    .mentions p ∈ conditions f ↔ ∃ needle ∈ f.search, p = partPattern needle := by
  simp only [conditions, List.mem_filterMap, id, possibleConditions, List.exists_mem_cons_iff,
    oneOf?_eq_some_iff, Option.map_eq_some_iff, reduceCtorEq, and_false, exists_false, false_or,
    List.not_mem_nil, false_and, or_false, Condition.mentions.injEq]
  exact exists_congr fun needle => and_congr_right fun _ => eq_comm

/-- **Texts of a filter are taken literally.** The pattern of a start matches the texts that begin with
it, and the pattern of a part those that contain it, whatever marks they have in them: taken apart, the
patterns are the letters asked for, with a stretch left open at the outer ends and nowhere else. The
only patterns of a filter are these. The one for the category holds for the rows of the records that
have it at the start of their category. -/
theorem filter_texts_taken_literally (v s : String) :
    (likes (startPattern v).toList s.toList = true ↔ v.toList <+: s.toList) ∧
    (likes (partPattern v).toList s.toList = true ↔ v.toList <:+: s.toList) ∧
    elements? (startPattern v).toList = some (v.toList.map .letter ++ [.stretch]) ∧
    elements? (partPattern v).toList =
      some (.stretch :: (v.toList.map .letter ++ [.stretch])) ∧
    (∀ (d : Dialect) (r : Record),
      (Condition.like .category (startPattern v)).truth d (recordTuple r) =
        some (startsWith v r.category)) ∧
    ∀ f : Filter,
      (∀ c p, .like c p ∈ conditions f ↔
        c = .category ∧ ∃ start ∈ f.category, p = startPattern start) ∧
      ∀ p, .mentions p ∈ conditions f ↔ ∃ needle ∈ f.search, p = partPattern needle := by
  refine ⟨likes_startPattern v s, likes_partPattern v s, elements?_startPattern v,
    elements?_partPattern v, fun d r => ?_, fun f =>
      ⟨fun c p => like_mem_conditions, fun p => mentions_mem_conditions⟩⟩
  exact truth_startPattern rfl v

end Sql

end EventLedger
