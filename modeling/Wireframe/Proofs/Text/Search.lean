import Wireframe.Text.Search

/-!
# What searching finds

* `occursIn_iff` — a text holds another exactly when that is an infix of it.
* `infix_append_cons_iff` — what occurs on both sides of a character that is not part of the mark.
* `cutAt?_of_not_mem` — a text is cut at a mark that cannot begin ahead of it.
* `cutAt?_eq_some_iff`, `exists_cutAt?_of_suffix` — a text is cut at the first place of the mark.
-/

set_option autoImplicit false

namespace Wireframe.Text

variable {mark a b s t rest : List Char} {c : Char}

theorem dropLead?_eq_some_iff {lead : List Char} : dropLead? lead s = some rest ↔ s = lead ++ rest := by
  constructor
  · exact eq_append_of_dropLead?
  · rintro rfl
    exact dropLead?_append lead rest

theorem dropLead?_isSome_iff {lead : List Char} : (dropLead? lead s).isSome = true ↔ lead <+: s := by
  rw [Option.isSome_iff_exists]
  exact exists_congr fun _ => dropLead?_eq_some_iff.trans eq_comm

/-- A text holds a mark exactly when the mark is an infix of it. -/
theorem occursIn_iff : occursIn mark s = true ↔ mark <:+: s := by
  induction s with
  | nil => rw [occursIn, List.isEmpty_iff, List.infix_nil]
  | cons c rest ih => rw [occursIn, Bool.or_eq_true, dropLead?_isSome_iff, ih, List.infix_cons_iff]

/-- A lead that does not reach a character says nothing about what follows it. -/
theorem dropLead?_append_cons (hc : c ∉ mark) (a s : List Char) :
    dropLead? mark (a ++ c :: s) = (dropLead? mark a).map (· ++ c :: s) := by
  induction mark generalizing a with
  | nil => rfl
  | cons m mark ih =>
    have hm : c ≠ m := List.ne_of_not_mem_cons hc
    have hmark : c ∉ mark := List.not_mem_of_not_mem_cons hc
    cases a with
    | nil =>
      show dropLead? (m :: mark) (c :: s) = none
      rw [dropLead?, if_neg hm.symm]
    | cons b a =>
      rw [List.cons_append, dropLead?, dropLead?]
      split
      · exact ih hmark a
      · rfl

/-- A mark without a character occurs on either side of the character or nowhere. -/
theorem infix_append_cons_iff (hc : c ∉ mark) (a s : List Char) :
    mark <:+: a ++ c :: s ↔ mark <:+: a ∨ mark <:+: s := by
  induction a with
  | nil =>
    rw [List.nil_append, List.infix_cons_iff, List.infix_nil]
    refine or_congr_left ?_
    cases mark with
    | nil => exact iff_of_true (List.nil_prefix) rfl
    | cons m mark =>
      refine iff_of_false (fun h => ?_) (List.cons_ne_nil m mark)
      obtain ⟨rfl, -⟩ := List.cons_prefix_cons.1 h
      exact hc (List.mem_cons_self)
  | cons b a ih =>
    have hlead : mark <+: b :: a ++ c :: s ↔ mark <+: b :: a := by
      rw [← dropLead?_isSome_iff, ← dropLead?_isSome_iff, dropLead?_append_cons hc,
        Option.isSome_map]
    rw [List.cons_append, List.infix_cons_iff, ih, List.infix_cons_iff, ← or_assoc,
      ← List.cons_append, hlead]

/-- A mark ends where its last character can stand. -/
theorem concat_infix_append_iff {m : Char} (h : m ∉ s) :
    mark ++ [m] <:+: a ++ s ↔ mark ++ [m] <:+: a := by
  refine ⟨fun hinfix => ?_, fun hinfix => hinfix.trans (List.prefix_append a s).isInfix⟩
  obtain ⟨before, after, heq⟩ := hinfix
  rcases List.append_eq_append_iff.1 heq with ⟨rest, ha, -⟩ | ⟨rest, hmark, hs⟩
  · rw [ha]
    exact ⟨before, rest, rfl⟩
  · rcases List.eq_nil_or_concat rest with rfl | ⟨init, d, rfl⟩
    · rw [List.append_nil] at hmark
      exact ⟨before, [], by rw [List.append_nil, hmark]⟩
    · rw [List.concat_eq_append, ← List.append_assoc, ← List.append_assoc] at hmark
      obtain rfl : m = d := by simpa using List.append_inj_right' hmark rfl
      refine absurd ?_ h
      rw [hs]
      simp

/-! ## Cutting -/

theorem cutAt?_mark_append (mark rest : List Char) : cutAt? mark (mark ++ rest) = some ([], rest) := by
  cases mark with
  | nil => cases rest <;> rfl
  | cons m mark =>
    have h := dropLead?_append (m :: mark) rest
    rw [List.cons_append] at h ⊢
    rw [cutAt?, h]

/-- A mark lies behind whatever does not hold its first character. -/
theorem cutAt?_append_of_not_mem {m : Char} (h : m ∉ a) (s : List Char) :
    cutAt? (m :: mark) (a ++ s) =
      (cutAt? (m :: mark) s).map fun (before, after) => (a ++ before, after) := by
  induction a with
  | nil => simp
  | cons b a ih =>
    have hb : m ≠ b := List.ne_of_not_mem_cons h
    have ha : m ∉ a := List.not_mem_of_not_mem_cons h
    rw [List.cons_append, cutAt?, dropLead?, if_neg hb, ih ha, Option.map_map]
    rfl

/-- Without its first character a mark is not found. -/
theorem cutAt?_eq_none {m : Char} (h : m ∉ s) (mark : List Char) : cutAt? (m :: mark) s = none := by
  have hnone : cutAt? (m :: mark) (s ++ []) = none := cutAt?_append_of_not_mem h []
  rwa [List.append_nil] at hnone

/-- The first occurrence of a mark behind a text that does not hold its first character. -/
theorem cutAt?_of_not_mem {m : Char} (h : m ∉ a) (mark rest : List Char) :
    cutAt? (m :: mark) (a ++ (m :: mark ++ rest)) = some (a, rest) := by
  rw [cutAt?_append_of_not_mem h, cutAt?_mark_append]
  simp

/-! ## The first place of a mark -/

theorem prefix_append_mark (a mark rest : List Char) :
    a ++ mark.dropLast <+: a ++ mark ++ rest :=
  ((List.prefix_append_right_inj a).2 (List.dropLast_prefix mark)).trans (List.prefix_append _ _)

/-- A mark that begins in front of another one ends before it. -/
theorem prefix_append_dropLast (ha : a ≠ []) (h : mark <+: a ++ mark ++ rest) :
    mark <+: a ++ mark.dropLast := by
  have hpos : 0 < a.length := List.length_pos_iff.2 ha
  refine List.prefix_of_prefix_length_le h (prefix_append_mark a mark rest) ?_
  rw [List.length_append, List.length_dropLast]
  omega

/-- A text is cut where the mark begins for the first time. -/
theorem cutAt?_eq_some_iff (hmark : mark ≠ []) :
    cutAt? mark s = some (a, b) ↔ s = a ++ mark ++ b ∧ ¬mark <:+: a ++ mark.dropLast := by
  constructor
  · intro h
    refine ⟨eq_append_of_cutAt? h, ?_⟩
    induction s generalizing a with
    | nil =>
      rw [cutAt?, if_neg hmark] at h
      cases h
    | cons c s ih =>
      have hs := eq_append_of_cutAt? h
      rw [cutAt?] at h
      split at h
      · cases h
        intro hinfix
        have hlength := hinfix.length_le
        have hpos := List.length_pos_iff.2 hmark
        rw [List.nil_append, List.length_dropLast] at hlength
        omega
      · next hnone =>
        obtain ⟨⟨front, back⟩, hcut, heq⟩ := Option.map_eq_some_iff.1 h
        cases heq
        intro hinfix
        rcases List.infix_cons_iff.1 hinfix with hstart | hinner
        · have hfound := hstart.trans (prefix_append_mark (c :: front) mark b)
          rw [← hs, ← dropLead?_isSome_iff, hnone] at hfound
          cases hfound
        · exact ih hcut hinner
  · rintro ⟨rfl, hfirst⟩
    induction a with
    | nil => exact cutAt?_mark_append mark b
    | cons c a ih =>
      have hnone : dropLead? mark (c :: a ++ mark ++ b) = none := by
        rw [← Option.not_isSome_iff_eq_none, dropLead?_isSome_iff]
        intro hstart
        exact hfirst (prefix_append_dropLast (List.cons_ne_nil c a) hstart).isInfix
      have hrest := ih fun h => hfirst (List.infix_cons h)
      rw [List.cons_append, List.cons_append] at hnone ⊢
      rw [cutAt?, hnone, hrest]
      rfl

/-- A mark is found wherever it stands, and what follows it there is not cut off. -/
theorem exists_cutAt?_of_suffix (h : mark ++ t <:+ s) :
    ∃ before after, cutAt? mark s = some (before, after) ∧ t <:+ after := by
  obtain ⟨front, rfl⟩ := h
  induction front with
  | nil => exact ⟨[], t, cutAt?_mark_append mark t, List.suffix_rfl⟩
  | cons c front ih =>
    obtain ⟨before, after, hcut, hsuffix⟩ := ih
    rw [List.cons_append, cutAt?]
    split
    · next found hfound =>
      have hs := eq_append_of_dropLead? hfound
      refine ⟨[], found, rfl, ?_⟩
      have hwhole : t <:+ mark ++ found := by
        rw [← hs, ← List.append_assoc]
        exact (List.suffix_append _ _).trans (List.suffix_cons _ _)
      refine List.suffix_of_suffix_length_le hwhole (List.suffix_append _ _) ?_
      have hlength := congrArg List.length hs
      simp only [List.length_cons, List.length_append] at hlength
      omega
    · exact ⟨c :: before, after, by rw [hcut]; rfl, hsuffix⟩

end Wireframe.Text
