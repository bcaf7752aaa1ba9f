import Mathlib.Data.List.TakeWhile
import Wireframe.Proofs.Reply.Content

/-!
# Repairing a class

The singular property that names the styles becomes the plural one, wherever it stands. A class
without it stays as it is. The text that is put in its place is not looked at again, and a value that
ends in the words of the singular property makes it appear anew: behind `styleUrls: ['` and such a
value, the quote that closes the value opens another one.

* `SingularStyle` — the singular property with its value.
* `NamesStyle` — where it stands in a text.
* `Reopens` — the texts in which repairing leaves one.
* `repair_fixpoint_iff` — what repairing once and twice comes to.
-/

set_option autoImplicit false

namespace Wireframe.Reply

open Text

/-! ## The property in a text -/

/-- The singular property with a quoted value. The two quotes need not be alike. -/
structure SingularStyle where
  gap : List Char
  opening : Char
  value : List Char
  closing : Char
  blank : ∀ c ∈ gap, isBlank c = true
  opens : isQuote opening = true
  closes : isQuote closing = true
  ne_nil : value ≠ []
  plain : ∀ c ∈ value, isQuote c = false

/-- The text of the property, from its first word to the quote behind its value. -/
def SingularStyle.text (p : SingularStyle) : List Char :=
  styleMark ++ p.gap ++ p.opening :: (p.value ++ [p.closing])

theorem SingularStyle.text_append (p : SingularStyle) (s : List Char) :
    p.text ++ s = (styleMark ++ p.gap) ++ p.opening :: (p.value ++ p.closing :: s) := by
  simp [text]

/-- The property stands in a text, and its value and what follows it are as `P` has it. -/
def Occurs (P : List Char → List Char → Prop) (s : List Char) : Prop :=
  ∃ (p : SingularStyle) (before after : List Char), s = before ++ p.text ++ after ∧ P p.value after

/-- The property stands somewhere in a text. -/
def NamesStyle (s : List Char) : Prop := Occurs (fun _ _ => True) s

/-- The words of the property with white space behind them end a text. -/
def EndsInMark (s : List Char) : Prop :=
  ∃ front gap, s = front ++ styleMark ++ gap ∧ ∀ c ∈ gap, isBlank c = true

/-- Whether there is a quote in a text. -/
def hasQuote (s : List Char) : Bool := s.any isQuote

/-- The property stands in a text with a value that ends in its own words, and a quote follows. -/
def Reopens (s : List Char) : Prop := Occurs (fun value after => EndsInMark value ∧ hasQuote after) s

variable {s t u v w rest after value : List Char} {c r : Char} {P : List Char → List Char → Prop}

/-! ## Quotes -/

theorem eq_of_isQuote (h : isQuote c = true) : c = '\'' ∨ c = '"' ∨ c = '`' := by
  simpa [isQuote, or_assoc] using h

theorem not_isBlank_of_isQuote (h : isQuote c = true) : isBlank c = false := by
  rcases eq_of_isQuote h with rfl | rfl | rfl <;> decide

theorem not_isQuote_of_isBlank (h : isBlank c = true) : isQuote c = false := by
  rw [← Bool.not_eq_true]
  intro hquote
  rw [not_isBlank_of_isQuote hquote] at h
  cases h

theorem not_mem_styleMark (h : isQuote c = true) : c ∉ styleMark := by
  rcases eq_of_isQuote h with rfl | rfl | rfl <;> decide

theorem not_isQuote_of_mem_styleMark (h : c ∈ styleMark) : isQuote c = false := by
  rw [← Bool.not_eq_true]
  exact fun hquote => not_mem_styleMark hquote h

/-- The words of the property and white space have no quote. -/
theorem not_isQuote_of_mem_mark_append {gap : List Char} (hgap : ∀ c ∈ gap, isBlank c = true) :
    ∀ c ∈ styleMark ++ gap, isQuote c = false := by
  intro c hc
  rcases List.mem_append.1 hc with hmark | hblank
  · exact not_isQuote_of_mem_styleMark hmark
  · exact not_isQuote_of_isBlank (hgap c hblank)

theorem forall_not_isQuote (h : hasQuote s = false) : ∀ c ∈ s, isQuote c = false :=
  fun c hc => Bool.eq_false_iff.2 (List.any_eq_false.1 h c hc)

/-- A text with a quote up to the first one. -/
theorem exists_first_quote (h : hasQuote s = true) :
    ∃ w r rest, s = w ++ r :: rest ∧ (∀ c ∈ w, isQuote c = false) ∧ isQuote r = true := by
  induction s with
  | nil => cases h
  | cons c s ih =>
    cases hc : isQuote c with
    | true => exact ⟨[], c, s, rfl, by simp, hc⟩
    | false =>
      rw [hasQuote, List.any_cons, hc, Bool.false_or] at h
      obtain ⟨w, r, rest, rfl, hw, hr⟩ := ih h
      exact ⟨c :: w, r, rest, rfl, List.forall_mem_cons.2 ⟨hc, hw⟩, hr⟩

theorem hasQuote_append_quote (hr : isQuote r = true) (w rest : List Char) :
    hasQuote (w ++ r :: rest) = true := by
  rw [hasQuote, List.any_append, List.any_cons, hr, Bool.true_or, Bool.or_true]

/-- A quoted value is what stands between two quotes. -/
theorem quotedValue?_eq_some_iff (hr : isQuote r = true) :
    quotedValue? (r :: rest) = some (value, after) ↔
      ∃ q, rest = value ++ q :: after ∧ isQuote q = true ∧ value ≠ [] ∧
        ∀ c ∈ value, isQuote c = false := by
  rw [quotedValue?, if_pos hr]
  constructor
  · intro h
    split at h
    · cases h
    · cases h
    · next q behind hdrop hne =>
      cases h
      refine ⟨q, ?_, ?_, hne, ?_⟩
      · rw [← hdrop, List.takeWhile_append_dropWhile]
      · have hhead := List.head?_dropWhile_not (fun d => !isQuote d) rest
        rw [hdrop] at hhead
        simpa using hhead
      · intro c hc
        simpa using List.all_eq_true.1 List.all_takeWhile c hc
  · rintro ⟨q, rfl, hq, hne, hplain⟩
    have hall : ∀ c ∈ value, (!isQuote c) = true := fun c hc => by rw [hplain c hc]; rfl
    have hstop : (!isQuote q) = false := by rw [hq]; rfl
    rw [List.takeWhile_append_of_pos hall, List.dropWhile_append_of_pos hall,
      List.takeWhile_cons_of_neg (by rw [hstop]; decide),
      List.dropWhile_cons_of_neg (by rw [hstop]; decide), List.append_nil]
    split
    · contradiction
    · contradiction
    · next heq =>
      cases heq
      rfl

/-! ## The property at the start of a text -/

/-- Before a quote there is the property exactly when there are its words and white space. -/
theorem styleValue?_append_quote (hw : ∀ c ∈ w, isQuote c = false) (hr : isQuote r = true) :
    styleValue? (w ++ r :: rest) = some (value, after) ↔
      (∃ gap, w = styleMark ++ gap ∧ ∀ c ∈ gap, isBlank c = true) ∧
        quotedValue? (r :: rest) = some (value, after) := by
  have hvalue : styleValue? (w ++ r :: rest) =
      (dropLead? styleMark w).bind fun u => quotedValue? (trimStart u ++ r :: rest) := by
    show (dropLead? styleMark (w ++ r :: rest)).bind _ = _
    rw [dropLead?_append_cons (not_mem_styleMark hr), Option.bind_map]
    refine Option.bind_congr fun u _ => ?_
    exact congrArg quotedValue? (trimStart_append_cons (not_isBlank_of_isQuote hr) u rest)
  rw [hvalue, Option.bind_eq_some_iff]
  constructor
  · rintro ⟨gap, hlead, hquoted⟩
    obtain rfl := eq_append_of_dropLead? hlead
    rcases trimStart_eq_nil_or gap with hnil | ⟨d, u, hcons, hd⟩
    · rw [hnil, List.nil_append] at hquoted
      exact ⟨⟨gap, rfl, fun c hc => List.dropWhile_eq_nil_iff.1 hnil c hc⟩, hquoted⟩
    · have hmem : d ∈ gap := mem_of_mem_trimStart (by rw [hcons]; exact List.mem_cons_self)
      have hplain := hw d (List.mem_append_right _ hmem)
      rw [hcons, List.cons_append, quotedValue?, hplain] at hquoted
      cases hquoted
  · rintro ⟨⟨gap, rfl, hgap⟩, hquoted⟩
    refine ⟨gap, dropLead?_append _ _, ?_⟩
    have hnil : trimStart gap = [] := List.dropWhile_eq_nil_iff.2 hgap
    rwa [hnil, List.nil_append]

theorem styleValue?_eq_some_iff :
    styleValue? s = some (value, after) ↔
      ∃ p : SingularStyle, s = p.text ++ after ∧ p.value = value := by
  constructor
  · intro h
    obtain ⟨u, hlead, hquoted⟩ := Option.bind_eq_some_iff.1 h
    have hs : s = styleMark ++ u := eq_append_of_dropLead? hlead
    obtain ⟨gap, hu, hgap⟩ : ∃ gap, u = gap ++ trimStart u ∧ ∀ c ∈ gap, isBlank c = true :=
      ⟨u.takeWhile isBlank, List.takeWhile_append_dropWhile.symm,
        fun c hc => List.all_eq_true.1 List.all_takeWhile c hc⟩
    cases hstart : trimStart u with
    | nil =>
      rw [hstart] at hquoted
      cases hquoted
    | cons r rest =>
      rw [hstart] at hquoted hu
      by_cases hr : isQuote r = true
      · obtain ⟨q, rfl, hq, hne, hplain⟩ := (quotedValue?_eq_some_iff hr).1 hquoted
        refine ⟨⟨gap, r, value, q, hgap, hr, hq, hne, hplain⟩, ?_, rfl⟩
        rw [SingularStyle.text_append, hs, hu, List.append_assoc]
      · rw [quotedValue?, if_neg hr] at hquoted
        cases hquoted
  · rintro ⟨p, rfl, rfl⟩
    rw [p.text_append, styleValue?_append_quote (not_isQuote_of_mem_mark_append p.blank) p.opens]
    exact ⟨⟨p.gap, rfl, p.blank⟩,
      (quotedValue?_eq_some_iff p.opens).2 ⟨p.closing, rfl, p.closes, p.ne_nil, p.plain⟩⟩

/-! ## The first character of the property -/

theorem styleMark_eq_cons : styleMark = 's' :: styleMark.tail := rfl

theorem not_mem_tail_styleMark : 's' ∉ styleMark.tail := by decide

theorem SingularStyle.text_eq_cons (p : SingularStyle) :
    p.text = 's' :: (styleMark.tail ++ p.gap ++ p.opening :: (p.value ++ [p.closing])) := by
  rw [text, styleMark_eq_cons]
  rfl

theorem ne_of_isQuote (h : isQuote c = true) : c ≠ 's' := by
  rcases eq_of_isQuote h with rfl | rfl | rfl <;> decide

theorem not_styleValue?_of_ne (hc : c ≠ 's') : styleValue? (c :: s) ≠ some (value, after) := by
  intro h
  obtain ⟨p, hs, -⟩ := styleValue?_eq_some_iff.1 h
  rw [p.text_eq_cons] at hs
  exact hc (List.cons.inj hs).1

theorem not_endsInMark_nil : ¬EndsInMark [] := by
  rintro ⟨front, gap, h, -⟩
  rw [styleMark_eq_cons] at h
  simp at h

theorem endsInMark_cons : EndsInMark (c :: s) ↔
    (∃ gap, c :: s = styleMark ++ gap ∧ ∀ c ∈ gap, isBlank c = true) ∨ EndsInMark s := by
  constructor
  · rintro ⟨front, gap, h, hgap⟩
    cases front with
    | nil => exact .inl ⟨gap, h, hgap⟩
    | cons b front => exact .inr ⟨front, gap, (List.cons.inj h).2, hgap⟩
  · rintro (⟨gap, h, hgap⟩ | ⟨front, gap, rfl, hgap⟩)
    · exact ⟨[], gap, h, hgap⟩
    · exact ⟨c :: front, gap, rfl, hgap⟩

/-! ## The property behind a character -/

theorem not_occurs_nil : ¬Occurs P [] := by
  rintro ⟨p, before, after, h, -⟩
  rw [p.text_eq_cons] at h
  simp at h

/-- The property begins at the first character or stands behind it. -/
theorem occurs_cons : Occurs P (c :: s) ↔
    (∃ value after, styleValue? (c :: s) = some (value, after) ∧ P value after) ∨ Occurs P s := by
  constructor
  · rintro ⟨p, before, after, h, hP⟩
    cases before with
    | nil => exact .inl ⟨p.value, after, styleValue?_eq_some_iff.2 ⟨p, h, rfl⟩, hP⟩
    | cons b before => exact .inr ⟨p, before, after, (List.cons.inj h).2, hP⟩
  · rintro (⟨value, after, hvalue, hP⟩ | ⟨p, before, after, rfl, hP⟩)
    · obtain ⟨p, hs, rfl⟩ := styleValue?_eq_some_iff.1 hvalue
      exact ⟨p, [], after, hs, hP⟩
    · exact ⟨p, c :: before, after, rfl, hP⟩

theorem occurs_cons_of_ne (hc : c ≠ 's') : Occurs P (c :: s) ↔ Occurs P s := by
  rw [occurs_cons, or_iff_right]
  rintro ⟨value, after, hvalue, -⟩
  exact not_styleValue?_of_ne hc hvalue

/-- Of a text without quotes and the quote behind it, only the end can be the words of a property. -/
theorem occurs_append_quote (hw : ∀ c ∈ w, isQuote c = false) (hr : isQuote r = true) :
    Occurs P (w ++ r :: rest) ↔
      (EndsInMark w ∧ ∃ value after, quotedValue? (r :: rest) = some (value, after) ∧ P value after) ∨
        Occurs P rest := by
  induction w with
  | nil =>
    rw [List.nil_append, occurs_cons_of_ne (ne_of_isQuote hr), or_iff_right]
    exact fun h => not_endsInMark_nil h.1
  | cons c w ih =>
    have hstart : (∃ value after, styleValue? (c :: w ++ r :: rest) = some (value, after) ∧
        P value after) ↔ (∃ gap, c :: w = styleMark ++ gap ∧ ∀ c ∈ gap, isBlank c = true) ∧
          ∃ value after, quotedValue? (r :: rest) = some (value, after) ∧ P value after := by
      simp only [styleValue?_append_quote hw hr, and_assoc, exists_and_left]
    rw [List.cons_append] at hstart ⊢
    rw [occurs_cons, ih (List.forall_mem_cons.1 hw).2, hstart, endsInMark_cons, or_and_right, or_assoc]

/-! ## One pass -/

/-- What becomes of a text: a character that no property begins at is kept, and a property becomes
the plural one. -/
inductive Repairs : List Char → List Char → Prop
  | nil : Repairs [] []
  | keep {c : Char} {s t : List Char} : (∀ value after, styleValue? (c :: s) ≠ some (value, after)) →
      Repairs s t → Repairs (c :: s) (c :: t)
  | replace (p : SingularStyle) {s t : List Char} : Repairs s t →
      Repairs (p.text ++ s) (styleList p.value ++ t)

theorem repairs_repairWithin {n : Nat} (h : s.length ≤ n) : Repairs s (repairWithin n s) := by
  induction n generalizing s with
  | zero =>
    obtain rfl := List.eq_nil_of_length_eq_zero (Nat.le_zero.1 h)
    exact .nil
  | succ n ih =>
    cases s with
    | nil => exact .nil
    | cons c s =>
      rw [repairWithin]
      cases hvalue : styleValue? (c :: s) with
      | none =>
        have hne (value after : List Char) : styleValue? (c :: s) ≠ some (value, after) := by
          rw [hvalue]
          exact (Option.some_ne_none (value, after)).symm
        exact .keep hne (ih (Nat.le_of_succ_le_succ h))
      | some found =>
        obtain ⟨value, after⟩ := found
        obtain ⟨p, hs, rfl⟩ := styleValue?_eq_some_iff.1 hvalue
        have hlength := congrArg List.length hs
        rw [p.text_eq_cons, List.cons_append, List.length_cons, List.length_cons,
          List.length_append] at hlength
        rw [List.length_cons] at h
        rw [hs]
        exact .replace p (ih (by omega))

theorem repairs_repairStyles (s : List Char) : Repairs s (repairStyles s) :=
  repairs_repairWithin (Nat.le_refl _)

/-- What the plural property begins with, up to the quote. -/
def listOpening : List Char := "styleUrls: [".toList

theorem styleList_append (value s : List Char) :
    styleList value ++ s = listOpening ++ '\'' :: (value ++ '\'' :: ']' :: s) := by
  have hopening : styleList value = listOpening ++ ['\''] ++ value ++ ['\'', ']'] := rfl
  rw [hopening]
  simp only [List.append_assoc, List.cons_append, List.nil_append]

theorem Repairs.hasQuote_eq (h : Repairs s t) : hasQuote t = hasQuote s := by
  induction h with
  | nil => rfl
  | @keep c s t _ _ ih =>
    unfold hasQuote at ih ⊢
    rw [List.any_cons, List.any_cons, ih]
  | @replace p s t _ _ =>
    rw [p.text_append, styleList_append, hasQuote_append_quote p.opens,
      hasQuote_append_quote (by decide)]

/-- What does not have the first character of the property stood there before. -/
theorem Repairs.exists_of_append (h : Repairs s (u ++ t)) (hu : 's' ∉ u) :
    ∃ v, s = u ++ v ∧ Repairs v t := by
  induction u generalizing s with
  | nil => exact ⟨s, rfl, h⟩
  | cons c u ih =>
    rw [List.cons_append] at h
    generalize hout : c :: (u ++ t) = out at h
    cases h with
    | nil => cases hout
    | keep _ h =>
      obtain ⟨rfl, rfl⟩ := List.cons.inj hout
      obtain ⟨v, rfl, hv⟩ := ih h (List.not_mem_of_not_mem_cons hu)
      exact ⟨v, rfl, hv⟩
    | replace p h =>
      obtain ⟨rfl, -⟩ := List.cons.inj hout
      exact absurd List.mem_cons_self hu

/-- Another character than the first one of the property is kept. -/
theorem Repairs.exists_cons (h : Repairs (c :: s) t) (hc : c ≠ 's') : ∃ u, t = c :: u := by
  generalize hin : c :: s = text at h
  cases h with
  | nil => cases hin
  | keep _ h =>
    obtain ⟨rfl, -⟩ := List.cons.inj hin
    exact ⟨_, rfl⟩
  | replace p h =>
    rw [p.text_eq_cons] at hin
    exact absurd (List.cons.inj hin).1 hc

/-- A property does not come to begin where none began. -/
theorem Repairs.styleValue?_ne (h : Repairs s t)
    (hnone : ∀ value after, styleValue? (c :: s) ≠ some (value, after)) (value after : List Char) :
    styleValue? (c :: t) ≠ some (value, after) := by
  intro hvalue
  obtain ⟨p, ht, rfl⟩ := styleValue?_eq_some_iff.1 hvalue
  rw [p.text_append, styleMark_eq_cons, List.cons_append, List.cons_append] at ht
  obtain ⟨rfl, htail⟩ := List.cons.inj ht
  have hkept : 's' ∉ styleMark.tail ++ p.gap ++ [p.opening] := by
    have hblank : 's' ∉ p.gap := fun hmem => absurd (p.blank 's' hmem) (by decide)
    simp [not_mem_tail_styleMark, hblank, (ne_of_isQuote p.opens).symm]
  rw [List.append_cons] at htail
  rw [htail] at h
  obtain ⟨v, rfl, hv⟩ := h.exists_of_append hkept
  have hquote : hasQuote v = true := by rw [← hv.hasQuote_eq, hasQuote_append_quote p.closes]
  obtain ⟨w, r, rest, rfl, hw, hr⟩ := exists_first_quote hquote
  cases w with
  | nil =>
    obtain ⟨u, hu⟩ := hv.exists_cons (ne_of_isQuote hr)
    obtain ⟨d, value, hcons⟩ := List.exists_cons_of_ne_nil p.ne_nil
    rw [hcons] at hu
    obtain ⟨rfl, -⟩ := List.cons.inj hu
    have hplain := p.plain d (by rw [hcons]; exact List.mem_cons_self)
    rw [hplain] at hr
    cases hr
  | cons d w =>
    refine hnone (d :: w) rest (styleValue?_eq_some_iff.2
      ⟨⟨p.gap, p.opening, d :: w, r, p.blank, p.opens, hr, List.cons_ne_nil d w, hw⟩, ?_, rfl⟩)
    rw [SingularStyle.text_append, styleMark_eq_cons]
    simp

/-! ## What a pass leaves -/

theorem not_endsInMark_listOpening : ¬EndsInMark listOpening := by
  rintro ⟨front, gap, h, -⟩
  have hoccurs : occursIn styleMark listOpening = true := occursIn_iff.2 ⟨front, gap, h.symm⟩
  exact absurd hoccurs (by decide)

/-- Behind a quote there is a quoted value, if at all, only with another quote. -/
theorem hasQuote_of_quotedValue? (hr : isQuote r = true)
    (h : quotedValue? (r :: rest) = some (value, after)) : hasQuote rest = true := by
  obtain ⟨q, rfl, hq, -⟩ := (quotedValue?_eq_some_iff hr).1 h
  exact hasQuote_append_quote hq _ _

/-- The quote that closes the list opens a value when a quote follows. -/
theorem exists_quotedValue?_iff :
    (∃ value after, quotedValue? ('\'' :: ']' :: t) = some (value, after)) ↔ hasQuote t = true := by
  have hr : isQuote '\'' = true := by decide
  constructor
  · rintro ⟨value, after, h⟩
    have hquote := hasQuote_of_quotedValue? hr h
    have hbracket : isQuote ']' = false := by decide
    rwa [hasQuote, List.any_cons, hbracket, Bool.false_or] at hquote
  · intro h
    obtain ⟨w, q, rest, rfl, hw, hq⟩ := exists_first_quote h
    refine ⟨']' :: w, rest, (quotedValue?_eq_some_iff hr).2 ⟨q, rfl, hq, List.cons_ne_nil _ _, ?_⟩⟩
    exact List.forall_mem_cons.2 ⟨by decide, hw⟩

theorem namesStyle_styleList_append (hvalue : ∀ c ∈ value, isQuote c = false) :
    NamesStyle (styleList value ++ t) ↔ (EndsInMark value ∧ hasQuote t = true) ∨ NamesStyle t := by
  have hr : isQuote '\'' = true := by decide
  unfold NamesStyle
  have hopening : ∀ c ∈ listOpening, isQuote c = false := forall_not_isQuote (by decide)
  rw [styleList_append, occurs_append_quote hopening hr, occurs_append_quote hvalue hr,
    occurs_cons_of_ne (by decide)]
  simp only [not_endsInMark_listOpening, false_and, false_or, and_true, exists_quotedValue?_iff]

theorem reopens_text_append (p : SingularStyle) (s : List Char) :
    Reopens (p.text ++ s) ↔ (EndsInMark p.value ∧ hasQuote s = true) ∨ Reopens s := by
  unfold Reopens
  rw [p.text_append, occurs_append_quote (not_isQuote_of_mem_mark_append p.blank) p.opens,
    occurs_append_quote p.plain p.closes]
  have hquoted : quotedValue? (p.opening :: (p.value ++ p.closing :: s)) = some (p.value, s) :=
    (quotedValue?_eq_some_iff p.opens).2 ⟨p.closing, rfl, p.closes, p.ne_nil, p.plain⟩
  have hmark : EndsInMark (styleMark ++ p.gap) := ⟨[], p.gap, rfl, p.blank⟩
  constructor
  · rintro (⟨-, value, after, h, hP⟩ | ⟨hend, value, after, h, -⟩ | hs)
    · rw [hquoted] at h
      cases h
      exact .inl hP
    · exact .inl ⟨hend, hasQuote_of_quotedValue? p.closes h⟩
    · exact .inr hs
  · rintro (h | hs)
    · exact .inl ⟨hmark, p.value, s, hquoted, h⟩
    · exact .inr (.inr hs)

theorem Repairs.namesStyle_iff (h : Repairs s t) : NamesStyle t ↔ Reopens s := by
  induction h with
  | nil => exact iff_of_false not_occurs_nil not_occurs_nil
  | @keep c s t hnone h ih =>
    have hnone' := h.styleValue?_ne hnone
    unfold NamesStyle Reopens at ih ⊢
    rw [occurs_cons, occurs_cons, ih]
    simp [hnone, hnone']
  | @replace p s t h ih =>
    rw [namesStyle_styleList_append p.plain, reopens_text_append, h.hasQuote_eq, ih]

/-- The plural property is not the singular one. -/
theorem styleList_append_ne (p : SingularStyle) (s t : List Char) :
    styleList value ++ t ≠ p.text ++ s := by
  intro h
  have hninth : some 's' = some ':' := congrArg (fun text : List Char => text[8]?) h
  cases hninth

theorem Repairs.eq_iff (h : Repairs s t) : t = s ↔ ¬NamesStyle s := by
  induction h with
  | nil => exact iff_of_true rfl not_occurs_nil
  | @keep c s t hnone h ih =>
    unfold NamesStyle at ih ⊢
    rw [occurs_cons, List.cons_inj_right, ih]
    simp [hnone]
  | @replace p s t h ih =>
    have hnames : NamesStyle (p.text ++ s) := ⟨p, [], s, rfl, trivial⟩
    exact iff_of_false (styleList_append_ne p s t) (not_not_intro hnames)

/-- **Repairing.** A class without the singular property stays as it is. A pass leaves one exactly in
the texts that reopen one, and these are the texts that a second pass changes again. -/
theorem repair_fixpoint_iff (content : List Char) :
    (repairStyles content = content ↔ ¬NamesStyle content) ∧
      (NamesStyle (repairStyles content) ↔ Reopens content) ∧
      (repairStyles (repairStyles content) = repairStyles content ↔ ¬Reopens content) := by
  have hnames := (repairs_repairStyles content).namesStyle_iff
  refine ⟨(repairs_repairStyles content).eq_iff, hnames, ?_⟩
  rw [← hnames]
  exact (repairs_repairStyles (repairStyles content)).eq_iff

/-- A class whose style file is named like the property. -/
def namesake : List Char := "@Component(\x7b styleUrl: 'styleUrl:', selector: 'app' \x7d)".toList

/-- **A pass may leave the singular property, and a second one then spoils the class.** -/
theorem namesake_is_repaired_again :
    repairStyles namesake = "@Component(\x7b styleUrls: ['styleUrl:'], selector: 'app' \x7d)".toList ∧
      NamesStyle (repairStyles namesake) ∧
      repairStyles (repairStyles namesake) =
        "@Component(\x7b styleUrls: ['styleUrls: ['], selector: ']app' \x7d)".toList ∧
      repairStyles (repairStyles namesake) ≠ repairStyles namesake := by
  have hfirst : repairStyles namesake =
      "@Component(\x7b styleUrls: ['styleUrl:'], selector: 'app' \x7d)".toList := by decide
  have hsecond : repairStyles (repairStyles namesake) =
      "@Component(\x7b styleUrls: ['styleUrls: ['], selector: ']app' \x7d)".toList := by
    rw [hfirst]
    decide
  let left : SingularStyle := {
    gap := [], opening := '\'', value := "], selector: ".toList, closing := '\'',
    blank := List.forall_mem_nil _, opens := by decide, closes := by decide, ne_nil := by decide,
    plain := forall_not_isQuote (by decide) }
  refine ⟨hfirst, ?_, hsecond, ?_⟩
  · rw [hfirst]
    exact ⟨left, "@Component(\x7b styleUrls: ['".toList, "app' \x7d)".toList, rfl, trivial⟩
  · rw [hsecond, hfirst]
    decide

end Wireframe.Reply
