import Wireframe.Proofs.Text.Search
import Wireframe.Text.Lines

/-!
# Lines and the text that they came from

Cutting a text into lines and writing these one below the other turns every line boundary into a line
feed and drops one at the end; the rest of the text stays.

* `joinLines_lines` — a text that knows no boundary but the line feed, and does not end in one, comes
  back as it was.
* `infix_joinLines_lines_iff` — a mark without line ends occurs in the text that comes back exactly
  when it occurs in the text.
* `lines_append` — the first line begins as the text does.
* `lines_append_line_feed` — the lines of a text behind a line feed are its own.
* `trim_eq_self`, `trim_between` — white space is trimmed only where there is some.
-/

set_option autoImplicit false

namespace Wireframe.Text

variable {c : Char} {s : List Char}

theorem not_isLineEnd_of_any (h : s.any isLineEnd = false) : ∀ c ∈ s, isLineEnd c = false := by
  intro c hc
  rw [← Bool.not_eq_true]
  exact List.any_eq_false.1 h c hc

/-! ## One character more -/

theorem lines_cons_of_not_end (h : isLineEnd c = false) (s : List Char) :
    lines (c :: s) = consLine c (lines s) := by
  have hc : c ≠ '\r' := by
    rintro rfl
    exact absurd h (by decide)
  rw [lines]
  · rw [h]
    rfl
  · exact fun _ h _ => hc h

theorem lines_cons_of_end (h : isLineEnd c = true) (hs : ∀ t, c = '\r' → s ≠ '\n' :: t) :
    lines (c :: s) = [] :: lines s := by
  rw [lines]
  · rw [if_pos h]
  · exact fun t hc => hs t hc

theorem lines_line_feed (s : List Char) : lines ('\n' :: s) = [] :: lines s :=
  lines_cons_of_end (by decide) nofun

theorem consLine_ne_nil (c : Char) (ls : List (List Char)) : consLine c ls ≠ [] := by
  cases ls <;> exact List.cons_ne_nil _ _

theorem lines_ne_nil (h : s ≠ []) : lines s ≠ [] := by
  fun_cases lines s with
  | case1 => exact absurd rfl h
  | case2 rest => exact List.cons_ne_nil _ _
  | case3 c rest _ hc => exact List.cons_ne_nil _ _
  | case4 c rest _ hc => exact consLine_ne_nil _ _

theorem joinLines_consLine (c : Char) (ls : List (List Char)) :
    joinLines (consLine c ls) = c :: joinLines ls := by
  cases ls with
  | nil => rfl
  | cons l rest => cases rest <;> rfl

theorem joinLines_nil_cons {ls : List (List Char)} (h : ls ≠ []) :
    joinLines ([] :: ls) = '\n' :: joinLines ls := by
  cases ls with
  | nil => exact absurd rfl h
  | cons l rest => rfl

theorem joinLines_append {as bs : List (List Char)} (ha : as ≠ []) (hb : bs ≠ []) :
    joinLines (as ++ bs) = joinLines as ++ '\n' :: joinLines bs := by
  induction as with
  | nil => exact absurd rfl ha
  | cons l ls ih =>
    cases ls with
    | nil =>
      cases bs with
      | nil => exact absurd rfl hb
      | cons m ms => simp [joinLines, List.intercalate]
    | cons m ms =>
      have h := ih (List.cons_ne_nil m ms)
      simp only [joinLines, List.intercalate, List.cons_append, List.intersperse_cons_cons,
        List.flatten_cons, List.append_assoc] at h ⊢
      rw [h]

theorem joinLines_singleton (l : List Char) : joinLines [l] = l := by simp [joinLines]

theorem joinLines_cons (l : List Char) {ls : List (List Char)} (h : ls ≠ []) :
    joinLines (l :: ls) = l ++ '\n' :: joinLines ls := by
  rw [← List.singleton_append, joinLines_append (List.cons_ne_nil l []) h, joinLines_singleton]

theorem joinLines_append_line_feed {ls : List (List Char)} (h : ls ≠ []) :
    joinLines ls ++ ['\n'] = ls.flatMap (· ++ ['\n']) := by
  induction ls with
  | nil => exact absurd rfl h
  | cons l ls ih =>
    by_cases hls : ls = []
    · subst hls
      simp [joinLines_singleton]
    · rw [joinLines_cons l hls, List.flatMap_cons, ← ih hls]
      simp

/-- Lines among which stand others, already written below each other. -/
theorem joinLines_joinLines {ls : List (List Char)} (h : ls ≠ []) (before after : List (List Char)) :
    joinLines (before ++ joinLines ls :: after) = joinLines (before ++ (ls ++ after)) := by
  rw [← List.append_left_inj ['\n'], joinLines_append_line_feed (by simp),
    joinLines_append_line_feed (by simp [h]), List.flatMap_append, List.flatMap_cons,
    joinLines_append_line_feed h, List.flatMap_append, List.flatMap_append]

theorem prefix_joinLines (l : List Char) (ls : List (List Char)) : l <+: joinLines (l :: ls) := by
  cases ls with
  | nil => exact ⟨[], by rw [List.append_nil, joinLines_singleton]⟩
  | cons m ms =>
    rw [joinLines_cons l (List.cons_ne_nil m ms)]
    exact List.prefix_append l _

/-- The last lines are what a text ends with. -/
theorem joinLines_suffix {back ls : List (List Char)} (h : back <:+ ls) (hne : back ≠ []) :
    joinLines back <:+ joinLines ls := by
  obtain ⟨front, rfl⟩ := h
  by_cases hfront : front = []
  · subst hfront
    exact List.suffix_rfl
  · rw [joinLines_append hfront hne]
    exact (List.suffix_cons '\n' _).trans (List.suffix_append _ _)

theorem suffix_joinLines {l : List Char} {ls : List (List Char)} (h : ls.getLast? = some l) :
    l <:+ joinLines ls := by
  obtain ⟨init, rfl⟩ := List.getLast?_eq_some_iff.1 h
  have hlast := joinLines_suffix (List.suffix_append init [l]) (List.cons_ne_nil l [])
  rwa [joinLines_singleton] at hlast

/-- A mark without line feeds occurs in lines below each other exactly when it occurs in one. -/
theorem infix_joinLines_iff {mark : List Char} (hmark : '\n' ∉ mark) (hne : mark ≠ [])
    {ls : List (List Char)} : mark <:+: joinLines ls ↔ ∃ l ∈ ls, mark <:+: l := by
  induction ls with
  | nil => simpa [joinLines] using hne
  | cons l ls ih =>
    by_cases hls : ls = []
    · subst hls
      simp [joinLines_singleton]
    · rw [joinLines_cons l hls, infix_append_cons_iff hmark, ih]
      simp only [List.mem_cons, exists_eq_or_imp]

theorem mem_joinLines {c : Char} {ls : List (List Char)} (h : c ∈ joinLines ls) :
    c = '\n' ∨ ∃ l ∈ ls, c ∈ l := by
  induction ls with
  | nil => cases h
  | cons l ls ih =>
    by_cases hls : ls = []
    · subst hls
      rw [joinLines_singleton] at h
      exact .inr ⟨l, List.mem_cons_self, h⟩
    · rw [joinLines_cons l hls, List.mem_append, List.mem_cons] at h
      rcases h with h | h | h
      · exact .inr ⟨l, List.mem_cons_self, h⟩
      · exact .inl h
      · rcases ih h with hc | ⟨m, hm, hc⟩
        · exact .inl hc
        · exact .inr ⟨m, List.mem_cons_of_mem l hm, hc⟩

/-- The first line begins as the text does. -/
theorem lines_append {a : List Char} (ha : ∀ c ∈ a, isLineEnd c = false) (hne : a ≠ [])
    (s : List Char) : ∃ first rest, lines (a ++ s) = (a ++ first) :: rest := by
  induction a with
  | nil => exact absurd rfl hne
  | cons c a ih =>
    obtain ⟨hc, ha'⟩ := List.forall_mem_cons.1 ha
    rw [List.cons_append, lines_cons_of_not_end hc]
    by_cases hempty : a = []
    · subst hempty
      cases lines ([] ++ s) with
      | nil => exact ⟨[], [], rfl⟩
      | cons l ls => exact ⟨l, ls, rfl⟩
    · obtain ⟨first, rest, h⟩ := ih ha' hempty
      rw [h]
      exact ⟨first, rest, rfl⟩

/-! ## The whole text -/

/-- What knows no boundary but the line feed comes back as it was, when something follows it. -/
theorem joinLines_lines_append {a : List Char} (ha : ∀ c ∈ a, isLineEnd c = true → c = '\n')
    (hs : s ≠ []) : joinLines (lines (a ++ s)) = a ++ joinLines (lines s) := by
  induction a with
  | nil => rfl
  | cons c a ih =>
    obtain ⟨hc, ha'⟩ := List.forall_mem_cons.1 ha
    rw [List.cons_append, List.cons_append, ← ih ha']
    by_cases hend : isLineEnd c = true
    · rw [hc hend, lines_line_feed, joinLines_nil_cons (lines_ne_nil (by simp [hs]))]
    · rw [lines_cons_of_not_end (by simpa using hend), joinLines_consLine]

theorem joinLines_lines_singleton (hc : isLineEnd c = false) : joinLines (lines [c]) = [c] := by
  rw [lines_cons_of_not_end hc, joinLines_consLine]
  rfl

/-- A text that knows no boundary but the line feed, and does not end in one, comes back as it was. -/
theorem joinLines_lines {a : List Char} (ha : ∀ c ∈ a, isLineEnd c = true → c = '\n')
    (hc : isLineEnd c = false) : joinLines (lines (a ++ [c])) = a ++ [c] := by
  rw [joinLines_lines_append ha (List.cons_ne_nil c []), joinLines_lines_singleton hc]

/-- What follows a line boundary: nothing, or a line feed and the lines of the rest. -/
theorem joinLines_nil_cons_lines (s : List Char) :
    joinLines ([] :: lines s) = if s = [] then [] else '\n' :: joinLines (lines s) := by
  split
  · subst_vars
    rfl
  · rename_i h
    exact joinLines_nil_cons (lines_ne_nil h)

/-- A text that does not end in a boundary comes back with the same end. -/
theorem exists_joinLines_lines (hc : isLineEnd c = false) (s : List Char) :
    ∃ t, joinLines (lines (s ++ [c])) = t ++ [c] := by
  -- along the lines of `s`: as `c` ends no line, each cut in `s ++ [c]` is one in `s`
  fun_induction lines s with
  | case1 => exact ⟨[], joinLines_lines_singleton hc⟩
  | case2 rest ih =>
    obtain ⟨t, ht⟩ := ih
    refine ⟨'\n' :: t, ?_⟩
    show joinLines (lines ('\r' :: '\n' :: (rest ++ [c]))) = _
    rw [lines, joinLines_nil_cons_lines, if_neg (by simp), ht, List.cons_append]
  | case3 d rest hd hend ih =>
    obtain ⟨t, ht⟩ := ih
    refine ⟨'\n' :: t, ?_⟩
    have hpair : ∀ u, d = '\r' → rest ++ [c] ≠ '\n' :: u := by
      intro u hcr h
      cases rest with
      | nil =>
        obtain ⟨rfl, -⟩ := List.cons.inj h
        exact absurd hc (by decide)
      | cons e rest =>
        obtain ⟨rfl, -⟩ := List.cons.inj h
        exact hd _ hcr rfl
    rw [List.cons_append, lines_cons_of_end hend hpair, joinLines_nil_cons_lines,
      if_neg (by simp), ht, List.cons_append]
  | case4 d rest _ hend ih =>
    obtain ⟨t, ht⟩ := ih
    refine ⟨d :: t, ?_⟩
    rw [List.cons_append, lines_cons_of_not_end (by simpa using hend), joinLines_consLine, ht,
      List.cons_append]

/-! ## Marks within lines -/

variable {mark : List Char}

theorem prefix_cons_iff_of_end (hmark : ∀ d ∈ mark, isLineEnd d = false) (hc : isLineEnd c = true)
    (s : List Char) : mark <+: c :: s ↔ mark = [] := by
  cases mark with
  | nil => exact iff_of_true List.nil_prefix rfl
  | cons m mark =>
    refine iff_of_false (fun h => ?_) (List.cons_ne_nil m mark)
    obtain ⟨rfl, -⟩ := List.cons_prefix_cons.1 h
    rw [hmark m List.mem_cons_self] at hc
    cases hc

theorem prefix_joinLines_nil_cons_iff (hmark : ∀ d ∈ mark, isLineEnd d = false) (s : List Char) :
    mark <+: joinLines ([] :: lines s) ↔ mark = [] := by
  rw [joinLines_nil_cons_lines]
  split
  · exact List.prefix_nil
  · exact prefix_cons_iff_of_end hmark (by decide) _

theorem prefix_joinLines_lines_iff (hmark : ∀ d ∈ mark, isLineEnd d = false) :
    mark <+: joinLines (lines s) ↔ mark <+: s := by
  fun_induction lines s generalizing mark with
  | case1 => rfl
  | case2 rest ih =>
    rw [prefix_joinLines_nil_cons_iff hmark, prefix_cons_iff_of_end hmark (by decide)]
  | case3 d rest _ hend ih =>
    rw [prefix_joinLines_nil_cons_iff hmark, prefix_cons_iff_of_end hmark hend]
  | case4 d rest _ hend ih =>
    rw [joinLines_consLine]
    cases mark with
    | nil => exact iff_of_true List.nil_prefix List.nil_prefix
    | cons m mark =>
      rw [List.cons_prefix_cons, List.cons_prefix_cons]
      exact and_congr_right fun _ => ih (List.forall_mem_cons.1 hmark).2

section

variable (hmark : ∀ d ∈ mark, isLineEnd d = false)

include hmark

/-- No mark within a line reaches across a line boundary. -/
theorem infix_cons_iff_of_end (hne : mark ≠ []) (hc : isLineEnd c = true) (s : List Char) :
    mark <:+: c :: s ↔ mark <:+: s := by
  have hmem : c ∉ mark := fun h => by
    rw [hmark c h] at hc
    cases hc
  have hsides := infix_append_cons_iff hmem [] s
  rwa [List.nil_append, List.infix_nil, or_iff_right hne] at hsides

/-- A mark within a line is found in the text that comes back exactly when it is in the text. -/
theorem infix_joinLines_lines_iff (hne : mark ≠ []) :
    mark <:+: joinLines (lines s) ↔ mark <:+: s := by
  have hboundary (rest : List Char) (ih : mark <:+: joinLines (lines rest) ↔ mark <:+: rest) :
      mark <:+: joinLines ([] :: lines rest) ↔ mark <:+: rest := by
    rw [joinLines_nil_cons_lines]
    split
    · subst_vars
      rfl
    · rw [infix_cons_iff_of_end hmark hne (by decide), ih]
  fun_induction lines s with
  | case1 => rfl
  | case2 rest ih =>
    rw [hboundary rest ih, infix_cons_iff_of_end hmark hne (by decide),
      infix_cons_iff_of_end hmark hne (by decide)]
  | case3 d rest _ hend ih => rw [hboundary rest ih, infix_cons_iff_of_end hmark hne hend]
  | case4 d rest _ hend ih =>
    have hstart : mark <+: d :: joinLines (lines rest) ↔ mark <+: d :: rest := by
      have h := prefix_joinLines_lines_iff hmark (s := d :: rest)
      rwa [lines_cons_of_not_end (by simpa using hend), joinLines_consLine] at h
    rw [joinLines_consLine, List.infix_cons_iff, List.infix_cons_iff]
    exact or_congr hstart ih

end

/-! ## Two texts -/

/-- Behind a line feed the lines begin anew. -/
theorem lines_append_line_feed (s u : List Char) :
    lines (s ++ '\n' :: u) = lines (s ++ ['\n']) ++ lines u := by
  fun_induction lines s with
  | case1 => simp [lines_line_feed, lines_nil]
  | case2 rest ih => simp [lines, ih]
  | case3 c rest hpair hend ih =>
    by_cases hreturn : c = '\r' ∧ rest = []
    · obtain ⟨rfl, rfl⟩ := hreturn
      simp [lines]
    · have hstart (v t : List Char) (hc : c = '\r') : rest ++ '\n' :: v ≠ '\n' :: t := by
        intro h
        cases rest with
        | nil => exact hreturn ⟨hc, rfl⟩
        | cons x rest => exact hpair rest hc (by rw [(List.cons.inj h).1])
      rw [List.cons_append, List.cons_append, lines_cons_of_end hend fun t => hstart u t,
        lines_cons_of_end hend fun t => hstart [] t, ih, List.cons_append]
  | case4 c rest _ hend ih =>
    have hend : isLineEnd c = false := by simpa using hend
    have hcons (ls ms : List (List Char)) (hls : ls ≠ []) :
        consLine c (ls ++ ms) = consLine c ls ++ ms := by
      cases ls with
      | nil => exact absurd rfl hls
      | cons l ls => rfl
    rw [List.cons_append, List.cons_append, lines_cons_of_not_end hend, lines_cons_of_not_end hend, ih,
      hcons _ _ (lines_ne_nil (by simp))]

/-- The last line of a text that does not end a line goes on with what follows. -/
theorem exists_lines_concat {d : Char} (hd : isLineEnd d = false) (t : List Char) :
    ∃ front last, (∀ c ∈ last, isLineEnd c = false) ∧
      ∀ s, lines (t ++ d :: s) = front ++ lines (last ++ d :: s) := by
  fun_induction lines t with
  | case1 => exact ⟨[], [], nofun, fun _ => rfl⟩
  | case2 rest ih =>
    obtain ⟨front, last, hlast, h⟩ := ih
    exact ⟨[] :: front, last, hlast, fun s => by simp [lines, h]⟩
  | case3 c rest hpair hend ih =>
    obtain ⟨front, last, hlast, h⟩ := ih
    refine ⟨[] :: front, last, hlast, fun s => ?_⟩
    have hstart (t : List Char) (hc : c = '\r') : rest ++ d :: s ≠ '\n' :: t := by
      intro heq
      cases rest with
      | nil =>
        rw [(List.cons.inj heq).1] at hd
        exact absurd hd (by decide)
      | cons x rest => exact hpair rest hc (by rw [(List.cons.inj heq).1])
    rw [List.cons_append, lines_cons_of_end hend hstart, h, List.cons_append]
  | case4 c rest _ hend ih =>
    obtain ⟨front, last, hlast, h⟩ := ih
    have hend : isLineEnd c = false := by simpa using hend
    cases front with
    | nil =>
      refine ⟨[], c :: last, List.forall_mem_cons.2 ⟨hend, hlast⟩, fun s => ?_⟩
      rw [List.cons_append, List.cons_append, lines_cons_of_not_end hend, lines_cons_of_not_end hend, h]
      rfl
    | cons l front =>
      refine ⟨(c :: l) :: front, last, hlast, fun s => ?_⟩
      rw [List.cons_append, lines_cons_of_not_end hend, h]
      rfl

theorem lines_of_not_end (hne : s ≠ []) (h : ∀ c ∈ s, isLineEnd c = false) : lines s = [s] := by
  induction s with
  | nil => exact absurd rfl hne
  | cons c s ih =>
    obtain ⟨hc, hs⟩ := List.forall_mem_cons.1 h
    rw [lines_cons_of_not_end hc]
    by_cases hnil : s = []
    · rw [hnil, lines_nil]
      rfl
    · rw [ih hnil hs]
      rfl

/-- A line and a line feed ahead of a text are the first of its lines. -/
theorem lines_line_append {l : List Char} (h : ∀ c ∈ l, isLineEnd c = false) (s : List Char) :
    lines (l ++ '\n' :: s) = l :: lines s := by
  induction l with
  | nil => exact lines_line_feed s
  | cons c l ih =>
    obtain ⟨hc, hl⟩ := List.forall_mem_cons.1 h
    rw [List.cons_append, lines_cons_of_not_end hc, ih hl]
    rfl

/-! ## Trimming -/

/-- Every line boundary is white space. -/
theorem isLineEnd_of_not_isBlank (h : isBlank c = false) : isLineEnd c = false := by
  rw [← Bool.not_eq_true] at h ⊢
  refine mt (fun hend => ?_) h
  simp only [isLineEnd, isBlank, inRanges, lineEndRanges, blankRanges, List.any_cons, List.any_nil,
    Bool.or_eq_true, Bool.and_eq_true, decide_eq_true_eq, Bool.false_eq_true, or_false] at hend ⊢
  omega

theorem trimStart_cons (h : isBlank c = false) (s : List Char) : trimStart (c :: s) = c :: s := by
  unfold trimStart
  rw [List.dropWhile_cons_of_neg (by simp [h])]

theorem trimEnd_concat (h : isBlank c = false) (s : List Char) : trimEnd (s ++ [c]) = s ++ [c] := by
  unfold trimEnd dropEndWhile
  rw [List.reverse_append, List.reverse_singleton, List.singleton_append,
    List.dropWhile_cons_of_neg (by simp [h]), List.reverse_cons, List.reverse_reverse]

/-- White space at the end of a text is trimmed together with what follows it. -/
theorem trimEnd_append_blank (h : isBlank c = true) (s : List Char) :
    trimEnd (s ++ [c]) = trimEnd s := by
  unfold trimEnd dropEndWhile
  rw [List.reverse_append, List.reverse_singleton, List.singleton_append,
    List.dropWhile_cons_of_pos h]

/-- A text with something other than white space at both ends stays as it is. -/
theorem trim_eq_self {d : Char} {t : List Char} (hc : isBlank c = false) (hd : isBlank d = false)
    (h : c :: s = t ++ [d]) : trim (c :: s) = c :: s := by
  rw [trim, trimStart_cons hc, h, trimEnd_concat hd]

/-- Of two parts only the first is trimmed at the start when the second begins with no white space. -/
theorem trimStart_append_cons (h : isBlank c = false) (a s : List Char) :
    trimStart (a ++ c :: s) = trimStart a ++ c :: s := by
  unfold trimStart
  rw [List.dropWhile_append, List.dropWhile_cons_of_neg (by simp [h])]
  split
  · rename_i hnil
    rw [List.isEmpty_iff.1 hnil, List.nil_append]
  · rfl

/-- Of two parts only the last is trimmed at the end, unless it is all white space. -/
theorem trimEnd_append (a b : List Char) :
    trimEnd (a ++ b) = if trimEnd b = [] then trimEnd a else a ++ trimEnd b := by
  unfold trimEnd dropEndWhile
  rw [List.reverse_append, List.dropWhile_append]
  simp only [List.isEmpty_iff, List.reverse_eq_nil_iff]
  split
  · rfl
  · rw [List.reverse_append, List.reverse_reverse]

/-- What is left after trimming begins with something other than white space. -/
theorem trimStart_eq_nil_or (s : List Char) :
    trimStart s = [] ∨ ∃ c t, trimStart s = c :: t ∧ isBlank c = false := by
  unfold trimStart
  cases h : s.dropWhile isBlank with
  | nil => exact .inl rfl
  | cons c t =>
    have hhead := List.head?_dropWhile_not isBlank s
    rw [h] at hhead
    exact .inr ⟨c, t, rfl, by simpa using hhead⟩

/-- What is left after trimming ends in something other than white space. -/
theorem trimEnd_eq_nil_or (s : List Char) :
    trimEnd s = [] ∨ ∃ t d, trimEnd s = t ++ [d] ∧ isBlank d = false := by
  unfold trimEnd dropEndWhile
  cases h : s.reverse.dropWhile isBlank with
  | nil => exact .inl rfl
  | cons d t =>
    have hhead := List.head?_dropWhile_not isBlank s.reverse
    rw [h] at hhead
    exact .inr ⟨t.reverse, d, List.reverse_cons, by simpa using hhead⟩

/-- A text between others stays as it is when there is no white space at its ends. -/
theorem trim_between {d : Char} {mid : List Char} (hc : isBlank c = false) (hd : isBlank d = false)
    (hopening : ∃ t, mid = c :: t) (hclosing : ∃ t, mid = t ++ [d]) (a b : List Char) :
    trim (a ++ mid ++ b) = trimStart a ++ mid ++ trimEnd b := by
  obtain ⟨rest, hrest⟩ := hopening
  obtain ⟨front, hfront⟩ := hclosing
  have hstart : trimStart (a ++ mid ++ b) = trimStart a ++ mid ++ b := by
    rw [hrest, List.append_assoc, List.cons_append, trimStart_append_cons hc, List.append_assoc,
      List.cons_append]
  rw [trim, hstart, trimEnd_append]
  split
  · rename_i hb
    rw [hb, List.append_nil, hfront, ← List.append_assoc, trimEnd_concat hd]
  · rfl

theorem trimEnd_trimEnd (s : List Char) : trimEnd (trimEnd s) = trimEnd s := by
  rcases trimEnd_eq_nil_or s with h | ⟨t, d, h, hd⟩
  · rw [h]
    rfl
  · rw [h, trimEnd_concat hd]

/-- The two ends of a text are trimmed in either order. -/
theorem trimStart_trimEnd (s : List Char) : trimStart (trimEnd s) = trimEnd (trimStart s) := by
  induction s with
  | nil => rfl
  | cons c s ih =>
    have hend : trimEnd (c :: s) = if trimEnd s = [] then trimEnd [c] else c :: trimEnd s :=
      trimEnd_append [c] s
    cases hc : isBlank c with
    | true =>
      have hstart (t : List Char) : trimStart (c :: t) = trimStart t := List.dropWhile_cons_of_pos hc
      have hblank : trimEnd [c] = [] := trimEnd_append_blank hc []
      rw [hend, hstart, ← ih]
      split
      · rename_i hs
        rw [hs, hblank]
      · rw [hstart]
    | false =>
      have hsingle : trimEnd [c] = [c] := trimEnd_concat hc []
      rw [trimStart_cons hc, hend]
      split
      · rw [hsingle, trimStart_cons hc]
      · rw [trimStart_cons hc]

/-- White space at the end makes no difference to a text that is trimmed. -/
theorem trim_trimEnd (s : List Char) : trim (trimEnd s) = trim s := by
  unfold trim
  rw [trimStart_trimEnd, trimEnd_trimEnd]

theorem mem_of_mem_trimStart (h : c ∈ trimStart s) : c ∈ s := (List.dropWhile_suffix _).subset h

theorem mem_of_mem_trimEnd (h : c ∈ trimEnd s) : c ∈ s :=
  List.mem_reverse.1 ((List.dropWhile_sublist _).subset (List.mem_reverse.1 h))

/-- A text that knows no boundary but the line feed is its lines, up to white space at its end. -/
theorem joinLines_lines_trimEnd (h : ∀ c ∈ s, isLineEnd c = true → c = '\n') :
    joinLines (lines (trimEnd s)) = trimEnd s := by
  rcases trimEnd_eq_nil_or s with hs | ⟨t, d, hs, hd⟩
  · rw [hs]
    rfl
  · have hmem (c : Char) (hc : c ∈ t) : c ∈ s :=
      mem_of_mem_trimEnd (by rw [hs]; exact List.mem_append_left _ hc)
    rw [hs]
    exact joinLines_lines (fun c hc => h c (hmem c hc))
      (isLineEnd_of_not_isBlank hd)

/-- What is trimmed at the end of a text is behind the rest of it. -/
theorem exists_eq_trimEnd_append (s : List Char) : ∃ blanks, s = trimEnd s ++ blanks := by
  refine ⟨(s.reverse.takeWhile isBlank).reverse, ?_⟩
  unfold trimEnd dropEndWhile
  rw [← List.reverse_append, List.takeWhile_append_dropWhile, List.reverse_reverse]

end Wireframe.Text
