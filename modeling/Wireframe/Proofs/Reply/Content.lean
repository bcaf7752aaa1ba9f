import Wireframe.Proofs.Text.Lines
import Wireframe.Reply.Extraction

/-!
# The content of a file

Source code that stands in a block keeps its beginning and its end: it is trimmed, looked through for
a comment with a file's name, and cut into lines that are joined again.

* `withoutNameComment_of_isCode` — the content of a block of source code is its lines.
* `IsNameComment.withoutNameComment_append` — the content of a block that begins with a comment that
  names a file is what stands behind the comment.
-/

set_option autoImplicit false

namespace Wireframe.Reply

open Wireframe.Text

/-- Source code that neither begins nor ends in white space, and whose first line is no comment. -/
structure IsCode (s : List Char) : Prop where
  first : ∃ c t, s = c :: t ∧ isBlank c = false
  last : ∃ t c, s = t ++ [c] ∧ isBlank c = false
  line : ∀ l ls, lines s = l :: ls → isComment l = false

theorem isComment_of_head {c : Char} (hblank : isBlank c = false) (hslash : c ≠ '/') (hangle : c ≠ '<')
    (l : List Char) : isComment (c :: l) = false := by
  unfold isComment
  rw [trimStart_cons hblank]
  simp [commentMarks, dropLead?, hslash.symm, hangle.symm]

/-- Source code is recognized by how it begins and by its last character. -/
theorem isCode_of_ends {s lead : List Char} {first last : Char} (hlead : lead <+: s)
    (hfirst : ∃ t, lead = first :: t) (hblank : isBlank first = false)
    (hends : lead.any isLineEnd = false) (hcomment : ∀ l, isComment (lead ++ l) = false)
    (hsuffix : [last] <:+ s) (hlast : isBlank last = false) : IsCode s where
  first := by
    obtain ⟨t, rfl⟩ := hfirst
    obtain ⟨u, rfl⟩ := hlead
    exact ⟨first, t ++ u, rfl, hblank⟩
  last := by
    obtain ⟨t, rfl⟩ := hsuffix
    exact ⟨t, last, rfl, hlast⟩
  line := by
    intro l ls h
    have hne : lead ≠ [] := by
      obtain ⟨t, rfl⟩ := hfirst
      exact List.cons_ne_nil first t
    obtain ⟨u, rfl⟩ := hlead
    obtain ⟨m, ms, hm⟩ := lines_append (not_isLineEnd_of_any hends) hne u
    rw [hm] at h
    obtain ⟨rfl, -⟩ := List.cons.inj h
    exact hcomment m

namespace IsCode

variable {s : List Char}

/-- A line feed behind source code is all that is trimmed. -/
theorem trim_concat (h : IsCode s) : trim (s ++ ['\n']) = s := by
  obtain ⟨c, t, hfirst, hc⟩ := h.first
  obtain ⟨u, d, hlast, hd⟩ := h.last
  have hstart : trimStart (s ++ ['\n']) = s ++ ['\n'] := by
    rw [hfirst, List.cons_append, trimStart_cons hc]
  rw [trim, hstart, trimEnd_append_blank (by decide), hlast, trimEnd_concat hd]

/-- Rejoining its lines leaves the two ends of source code as they are. -/
theorem joinLines_lines_ends (h : IsCode s) : ∃ c t u d, joinLines (lines s) = c :: t ∧
    c :: t = u ++ [d] ∧ isBlank c = false ∧ isBlank d = false := by
  obtain ⟨c, t, hfirst, hc⟩ := h.first
  obtain ⟨u, d, hlast, hd⟩ := h.last
  obtain ⟨w, hw⟩ := exists_joinLines_lines (isLineEnd_of_not_isBlank hd) u
  obtain ⟨v, hv⟩ : ∃ v, joinLines (lines s) = c :: v := by
    rw [hfirst, lines_cons_of_not_end (isLineEnd_of_not_isBlank hc), joinLines_consLine]
    exact ⟨_, rfl⟩
  exact ⟨c, v, w, d, hv, by rw [← hw, ← hlast, hv], hc, hd⟩

theorem joinLines_lines_ne_nil (h : IsCode s) : joinLines (lines s) ≠ [] := by
  obtain ⟨c, t, -, -, hjoined, -⟩ := h.joinLines_lines_ends
  rw [hjoined]
  exact List.cons_ne_nil c t

/-- Source code whose lines end in line feeds is its lines. -/
theorem joinLines_lines (h : IsCode s) (hends : ∀ c ∈ s, isLineEnd c = true → c = '\n') :
    joinLines (lines s) = s := by
  obtain ⟨t, c, rfl, hc⟩ := h.last
  exact Text.joinLines_lines (fun d hd => hends d (List.mem_append_left _ hd))
    (isLineEnd_of_not_isBlank hc)

end IsCode

theorem withoutNameComment_of_isCode {s : List Char} (h : IsCode s) :
    withoutNameComment (s ++ ['\n']) = joinLines (lines s) := by
  obtain ⟨c, v, w, d, hjoined, hends, hc, hd⟩ := h.joinLines_lines_ends
  unfold withoutNameComment
  rw [h.trim_concat]
  cases hlines : lines s with
  | nil =>
    rw [hlines] at hjoined
    cases hjoined
  | cons l ls =>
    have hnames : namesAnyFile l = false := by
      unfold namesAnyFile
      rw [h.line l ls hlines, Bool.false_and]
    rw [hlines] at hjoined
    simp only [hnames, Bool.false_eq_true, if_false]
    rw [hjoined, trim_eq_self hc hd hends]

/-- What becomes of the text of a file. -/
def repaired (k : FileKind) (text : List Char) : List Char :=
  match k with
  | .typescript => repairStyles text
  | .html | .scss => text

theorem contentOf_eq_repaired (k : FileKind) (body : List Char) :
    contentOf k body = repaired k (withoutNameComment body) := by
  cases k <;> rfl

theorem contentOf_of_isCode {s : List Char} (h : IsCode s) (k : FileKind) :
    contentOf k (s ++ ['\n']) = repaired k (joinLines (lines s)) := by
  rw [contentOf_eq_repaired, withoutNameComment_of_isCode h]

/-! ## A comment with a file's name -/

theorem sameLetter_self (c : Char) : sameLetter c c = true := by
  simp only [sameLetter, beq_self_eq_true, Bool.true_or]

theorem dropWordIgnoringCase?_append (word rest : List Char) :
    dropWordIgnoringCase? word (word ++ rest) = some rest := by
  induction word with
  | nil => rfl
  | cons c word ih => rw [List.cons_append, dropWordIgnoringCase?, if_pos (sameLetter_self c), ih]

/-- A name is found wherever it stands, unless a word goes on behind it. -/
theorem occursAsName_append (before name : List Char) {after : List Char}
    (h : endsWord after = true) : occursAsName name (before ++ (name ++ after)) = true := by
  have hstarts : startsWithName name (name ++ after) = true := by
    unfold startsWithName
    rw [dropWordIgnoringCase?_append]
    exact h
  induction before with
  | nil =>
    rw [List.nil_append]
    cases htext : name ++ after with
    | nil => rw [occursAsName, ← htext, hstarts]
    | cons c rest => rw [occursAsName, ← htext, hstarts, Bool.true_or]
  | cons b before ih => rw [List.cons_append, occursAsName, ih, Bool.or_true]

/-- A line that is a comment with a file's name, with no white space around it. -/
structure IsNameComment (line : List Char) : Prop where
  first : ∃ c t, line = c :: t ∧ isBlank c = false
  last : ∃ t c, line = t ++ [c] ∧ isBlank c = false
  ends : ∀ c ∈ line, isLineEnd c = false
  names : namesAnyFile line = true

namespace IsNameComment

variable {line body : List Char}

theorem trimEnd_line (h : IsNameComment line) : trimEnd line = line := by
  obtain ⟨t, c, rfl, hc⟩ := h.last
  exact trimEnd_concat hc t

/-- What is trimmed behind such a line is the white space at the end of the body, and the end of the
line too when nothing is left of the body. -/
theorem trim_append (h : IsNameComment line) (body : List Char) :
    trim (line ++ '\n' :: (body ++ ['\n'])) =
      if trimEnd body = [] then line else line ++ '\n' :: trimEnd body := by
  have hstart : trimStart (line ++ '\n' :: (body ++ ['\n'])) = line ++ '\n' :: (body ++ ['\n']) := by
    obtain ⟨c, t, rfl, hc⟩ := h.first
    rw [List.cons_append, trimStart_cons hc]
  have hfeed : trimEnd ['\n'] = [] := trimEnd_append_blank (by decide) []
  have hbehind : trimEnd ('\n' :: (body ++ ['\n'])) =
      if trimEnd body = [] then [] else '\n' :: trimEnd body := by
    rw [← List.singleton_append, trimEnd_append, trimEnd_append_blank (by decide), hfeed]
    rfl
  rw [trim, hstart, trimEnd_append, hbehind, h.trimEnd_line]
  by_cases hbody : trimEnd body = []
  · rw [if_pos hbody, if_pos rfl, if_pos hbody]
  · rw [if_neg hbody, if_neg (List.cons_ne_nil _ _), if_neg hbody]

/-- The line is the first of what follows it. -/
theorem lines_append (h : IsNameComment line) (rest : List Char) :
    lines (line ++ '\n' :: rest) = line :: lines rest := lines_line_append h.ends rest

theorem lines_eq (h : IsNameComment line) : lines line = [line] := by
  obtain ⟨t, c, hline, -⟩ := h.last
  exact lines_of_not_end (by rw [hline]; exact List.concat_ne_nil c t) h.ends

/-- **A first line that is a comment with a file's name is dropped, and the body behind it is
trimmed.** Further comments of the body stay. -/
theorem withoutNameComment_append (h : IsNameComment line)
    (hends : ∀ c ∈ body, isLineEnd c = true → c = '\n') :
    withoutNameComment (line ++ '\n' :: (body ++ ['\n'])) = trim body := by
  unfold withoutNameComment
  rw [h.trim_append]
  by_cases hbody : trimEnd body = []
  · have hempty : trim body = [] := by rw [← trim_trimEnd, hbody, trim_nil]
    rw [if_pos hbody, h.lines_eq, hempty]
    simp only [h.names, if_true]
    rfl
  · rw [if_neg hbody, h.lines_append]
    simp only [h.names, if_true]
    rw [joinLines_lines_trimEnd hends, trim_trimEnd]

end IsNameComment

/-! ## Repairs -/

/-- The words that the singular property begins with. -/
def styleMark : List Char := "styleUrl:".toList

theorem styleValue?_eq_none {s : List Char} (h : ¬styleMark <+: s) : styleValue? s = none := by
  have hnone : dropLead? styleMark s = none := by
    rw [← Option.not_isSome_iff_eq_none, dropLead?_isSome_iff]
    exact h
  show (dropLead? styleMark s).bind _ = none
  rw [hnone, Option.bind_none]

theorem repairWithin_append {a : List Char} {c : Char} (ha : ¬styleMark <:+: a) (hc : c ∉ styleMark)
    (n : Nat) (s : List Char) :
    repairWithin (a.length + 1 + n) (a ++ c :: s) = a ++ c :: repairWithin n s := by
  have hstart (b : List Char) (hb : ¬styleMark <+: b) : styleValue? (b ++ c :: s) = none := by
    apply styleValue?_eq_none
    rwa [← dropLead?_isSome_iff, dropLead?_append_cons hc, Option.isSome_map, dropLead?_isSome_iff]
  induction a with
  | nil =>
    have h := hstart [] fun h => ha h.isInfix
    rw [List.nil_append] at h ⊢
    rw [List.length_nil, Nat.zero_add, Nat.add_comm, repairWithin, h]
    rfl
  | cons b a ih =>
    have h := hstart (b :: a) fun h => ha h.isInfix
    rw [List.cons_append] at h ⊢
    rw [show (b :: a).length + 1 + n = a.length + 1 + n + 1 by rw [List.length_cons]; omega,
      repairWithin, h]
    exact congrArg (b :: ·) (ih fun h => ha (List.infix_cons h))

/-- Nothing is repaired ahead of the first singular property. -/
theorem repairStyles_append {a : List Char} {c : Char} (ha : ¬styleMark <:+: a) (hc : c ∉ styleMark)
    (s : List Char) : repairStyles (a ++ c :: s) = a ++ c :: repairStyles s := by
  unfold repairStyles
  rw [show (a ++ c :: s).length = a.length + 1 + s.length by simp; omega, repairWithin_append ha hc]

/-! ## Checks -/

theorem exportsClass_append (a : List Char) {s : List Char} (h : startsWithClass s = true)
    (hne : s ≠ []) : exportsClass (a ++ s) = true := by
  induction a with
  | nil =>
    obtain ⟨c, t, rfl⟩ := List.exists_cons_of_ne_nil hne
    rw [List.nil_append, exportsClass, h, Bool.true_or]
  | cons b a ih => rw [List.cons_append, exportsClass, ih, Bool.or_true]

theorem startsWithClass_of_word {c : Char} (h : isWordChar c = true) (hblank : isBlank c = false)
    (rest : List Char) : startsWithClass ("export class ".toList ++ c :: rest) = true := by
  have hnamed : ((dropLead? "export".toList ("export class ".toList ++ c :: rest)).bind fun a =>
      (dropBlanks? a).bind fun b => (dropLead? "class".toList b).bind dropBlanks?) =
      some (trimStart (c :: rest)) := rfl
  rw [trimStart_cons hblank] at hnamed
  unfold startsWithClass
  simp only [hnamed, h]

end Wireframe.Reply
