import Wireframe.Backend.Message
import Wireframe.Proofs.Json.Extent
import Wireframe.Proofs.Json.RoundTrip
import Wireframe.Proofs.Reply.Value
import Wireframe.Proofs.Text.Lines

/-!
# An object in a reply

A backend wraps the object that it is asked for: it puts it in a fence, or writes some words before
and after it. The object is found all the same. The text as a whole is tried first, and it is no value
itself: a backtick with the end of its line behind it stands in no string, and the words around an
object are not part of a value that begins or ends with a brace.

* `IsObjectText` — the text of an object from its opening to its closing brace.
* `Wraps` — the two ways in which a reply wraps it.
* `wrapped_object_is_found` — what the answer says of such a reply.
-/

set_option autoImplicit false

namespace Wireframe.Reply

open Text

/-- The text of an object with the fields that are read from it, without a backtick. -/
structure IsObjectText (object : List Char) (fields : Fields) : Prop where
  read : Json.read object = .ok (.obj fields)
  opening : ∃ rest, object = '\x7b' :: rest
  closing : ∃ front, object = front ++ ['\x7d']
  plain : '`' ∉ object

/-- The characters that a value which is not bare begins or ends with, and the backtick. -/
def structural : List Char := ['\x7b', '\x7d', '[', ']', '"', '`']

/-- Words that keep clear of these. -/
def IsProse (s : List Char) : Prop := ∀ c ∈ s, c ∉ structural

instance (s : List Char) : Decidable (IsProse s) :=
  List.decidableBAll (fun c => c ∉ structural) s

/-- A fence with the word `json` around an object, each mark on a line of its own. -/
def fenced (object : List Char) : List Char :=
  ['`', '`', '`'] ++ "json".toList ++ ['\n'] ++ object ++ ['\n'] ++ ['`', '`', '`']

/-- A reply that wraps an object: in the first fence, with any words around it, or in prose alone. -/
inductive Wraps (object : List Char) : List Char → Prop
  | fence (before after : List Char) : '`' ∉ before → Wraps object (before ++ fenced object ++ after)
  | prose (before after : List Char) : IsProse before → IsProse after →
      Wraps object (before ++ object ++ after)

/-- Reading a text does not give up because of the size of what is in it. -/
def WithinLimits (text : List Char) : Prop := ∀ e, Json.read text ≠ .error (.excess e)

variable {object text before after : List Char} {fields : Fields}

instance (text : List Char) : Decidable (WithinLimits text) :=
  match h : Json.read text with
  | .error (.excess e) => .isFalse fun hlimits => hlimits e h
  | .error (.malformed _) => .isTrue fun _ he => nomatch h.symm.trans he
  | .ok _ => .isTrue fun _ he => nomatch h.symm.trans he

/-- An object of texts is such a text as it is written, unless a backtick is in it. -/
theorem isObjectText_indentedAt (h : Json.IsTextual Json.maxDepth (.obj fields)) (level : Nat)
    (hplain : '`' ∉ Json.indentedAt level (.obj fields)) :
    IsObjectText (Json.indentedAt level (.obj fields)) fields where
  read := Json.read_indentedAt h level
  opening := by
    cases fields with
    | nil => exact ⟨_, by rw [Json.indentedAt]⟩
    | cons e fields => exact ⟨_, by rw [Json.indentedAt]; exact List.cons_ne_nil e fields⟩
  closing := by
    cases fields with
    | nil => exact ⟨['\x7b'], by rw [Json.indentedAt]; rfl⟩
    | cons e fields =>
      refine ⟨'\x7b' :: (Json.fieldLines (level + 1) (e :: fields) ++ Json.newLine level), ?_⟩
      rw [Json.indentedAt, List.cons_append]
      exact List.cons_ne_nil e fields
  plain := hplain

/-! ## The text as a whole -/

theorem ticksQuoted_of_read {v : Json} (h : Json.read text = .ok v) : Json.TicksQuoted text := by
  obtain ⟨front, value, back, rfl, hfront, hback, hvalue⟩ := Json.exists_text_of_read h
  exact ((Json.ticksQuoted_of_isGapText hfront).append hvalue.ticksQuoted).append
    (Json.ticksQuoted_of_isGapText hback)

theorem isBlank_of_isGap {c : Char} (h : Json.isGap c = true) : isBlank c = true := by
  simp only [Json.isGap, Bool.or_eq_true, beq_iff_eq] at h
  obtain ((rfl | rfl) | rfl) | rfl := h <;> decide

/-- A text without white space at its ends that is read is the text of one value. -/
theorem isValueText_of_read_trim {s : List Char} {v : Json} (h : Json.read (trim s) = .ok v) :
    Json.IsValueText (trim s) := by
  obtain ⟨front, value, back, htrim, hfront, hback, hvalue⟩ := Json.exists_text_of_read h
  have hblank {gap : List Char} {c : Char} (hgap : Json.isGapText gap = true) (hc : c ∈ gap) :
      isBlank c = true := isBlank_of_isGap (List.all_eq_true.1 hgap c hc)
  have hstart : front = [] := by
    cases front with
    | nil => rfl
    | cons b front =>
      rcases trimStart_eq_nil_or (trimEnd s) with hnil | ⟨c, t, hcons, hc⟩
      · rw [trimStart_trimEnd, ← trim, htrim] at hnil
        cases hnil
      · rw [trimStart_trimEnd, ← trim, htrim] at hcons
        obtain ⟨rfl, -⟩ := List.cons.inj hcons
        rw [hblank hfront List.mem_cons_self] at hc
        cases hc
  have hend : back = [] := by
    rcases List.eq_nil_or_concat back with hnil | ⟨back, b, rfl⟩
    · exact hnil
    · rw [List.concat_eq_append, ← List.append_assoc] at htrim
      rcases trimEnd_eq_nil_or (trimStart s) with hnil | ⟨t, d, hconcat, hd⟩
      · rw [← trim, htrim] at hnil
        simp at hnil
      · rw [← trim, htrim] at hconcat
        obtain rfl : b = d := by simpa using List.append_inj_right' hconcat rfl
        rw [hblank hback (by simp)] at hd
        cases hd
  rw [htrim, hstart, hend, List.nil_append, List.append_nil]
  exact hvalue

/-! ## Trying the object -/

/-- A text that is tried before an object and is not another value. -/
theorem tryTexts_of_read {fallback : Option (List Char)} {rest : List (List Char)} {v : Json}
    (hobject : Json.read object = .ok v) (hlimits : WithinLimits text)
    (htext : ∀ w, Json.read text = .ok w → text = object) :
    tryTexts none fallback (text :: object :: rest) = .ok ⟨some v, some object, none⟩ := by
  cases h : Json.read text with
  | ok w =>
    rw [htext w h, tryTexts, hobject]
  | error e =>
    cases e with
    | excess e => exact absurd h (hlimits e)
    | malformed f => rw [tryTexts_cons_of_malformed h, tryTexts, hobject]

/-! ## In a fence -/

/-- Behind prose without a backtick the first fence is the one around the object. -/
theorem nextFenced?_of_fenced (h : IsObjectText object fields) (hbefore : '`' ∉ before)
    (after : List Char) : nextFenced? (before ++ fenced object ++ after) = some (object, after) := by
  obtain ⟨rest, hopening⟩ := h.opening
  obtain ⟨front, hclosing⟩ := h.closing
  let inside := object ++ ['\n'] ++ (['`', '`', '`'] ++ after)
  have htext : before ++ fenced object ++ after =
      before ++ (['`', '`', '`'] ++ ("json".toList ++ ('\n' :: inside))) := by
    simp [fenced, inside]
  have hcut : cutAt? ['`', '`', '`'] (before ++ fenced object ++ after) =
      some (before, "json".toList ++ ('\n' :: inside)) := by
    rw [htext]
    exact cutAt?_of_not_mem hbefore _ _
  have hlead : withoutLead "json".toList ("json".toList ++ ('\n' :: inside)) = '\n' :: inside := by
    rw [withoutLead, dropLead?_append, Option.getD_some]
  have hstart : trimStart ('\n' :: inside) = inside := by
    have hinside : inside = '\x7b' :: (rest ++ ['\n'] ++ (['`', '`', '`'] ++ after)) := by
      simp [inside, hopening]
    rw [hinside]
    exact trimStart_append_cons (by decide) ['\n'] _
  have hclose : cutAt? ['`', '`', '`'] inside = some (object ++ ['\n'], after) :=
    cutAt?_of_not_mem (by simpa using h.plain) _ _
  have htrim : trimEnd (object ++ ['\n']) = object := by
    rw [trimEnd_append_blank (by decide), hclosing, trimEnd_concat (by decide)]
  simp only [nextFenced?, hcut, hlead, hstart, hclose, htrim, Option.bind_eq_bind, Option.bind_some]

/-- Around a fence with an object stands no value: the backticks that open it are in no string. -/
theorem not_ticksQuoted_of_fenced (before object after : List Char) :
    ¬Json.TicksQuoted (before ++ fenced object ++ after) := by
  have hword : '"' ∉ "json".toList := by decide
  have hnot := Json.not_ticksQuoted hword (before ++ ['`', '`'])
    (object ++ ['\n'] ++ ['`', '`', '`'] ++ after)
  have htext : before ++ fenced object ++ after = before ++ ['`', '`'] ++
      '`' :: ("json".toList ++ '\n' :: (object ++ ['\n'] ++ ['`', '`', '`'] ++ after)) := by
    simp [fenced]
  rwa [htext]

/-- The inside of the first fence is tried right behind the text as a whole. -/
theorem candidates_of_nextFenced? {rest : List Char} (h : nextFenced? text = some (object, rest)) :
    ∃ others, candidates text = text :: object :: others := by
  cases text with
  | nil => cases h
  | cons c text =>
    refine ⟨fencedWithin text.length rest ++ (braceSpan? (c :: text)).toList, ?_⟩
    rw [candidates, fencedTexts, List.length_cons, fencedWithin, h]
    rfl

theorem findValue_of_fenced (h : IsObjectText object fields) (hbefore : '`' ∉ before)
    (hlimits : WithinLimits (trim (before ++ fenced object ++ after))) :
    findValue (before ++ fenced object ++ after) = .ok ⟨some (.obj fields), some object, none⟩ := by
  have htick : isBlank '`' = false := by decide
  have hopening : ∃ rest, fenced object = '`' :: rest := ⟨_, rfl⟩
  have hclosing : ∃ front, fenced object = front ++ ['`'] :=
    ⟨['`', '`', '`'] ++ "json".toList ++ ['\n'] ++ object ++ ['\n'] ++ ['`', '`'], by simp [fenced]⟩
  have htrim := trim_between htick htick hopening hclosing before after
  have hfound := nextFenced?_of_fenced h (fun hmem => hbefore (mem_of_mem_trimStart hmem)) (trimEnd after)
  obtain ⟨others, hcandidates⟩ := candidates_of_nextFenced? hfound
  have hnone (w : Json) :
      Json.read (trimStart before ++ fenced object ++ trimEnd after) ≠ .ok w :=
    fun hread => not_ticksQuoted_of_fenced _ _ _ (ticksQuoted_of_read hread)
  rw [htrim] at hlimits
  rw [findValue_eq, htrim, hcandidates]
  exact tryTexts_of_read h.read hlimits fun w hread => absurd hread (hnone w)

/-! ## In prose -/

/-- The text from the first opening to the last closing brace is the object. -/
theorem braceSpan?_of_prose (h : IsObjectText object fields) (hbefore : '\x7b' ∉ before)
    (hafter : '\x7d' ∉ after) : braceSpan? (before ++ object ++ after) = some object := by
  obtain ⟨rest, hopening⟩ := h.opening
  obtain ⟨front, hclosing⟩ := h.closing
  have hopened : (before ++ object ++ after).dropWhile (· != '\x7b') = object ++ after := by
    rw [List.append_assoc, List.dropWhile_append_of_pos, hopening, List.cons_append,
      List.dropWhile_cons_of_neg (by decide)]
    exact fun c hc => bne_iff_ne.2 (ne_of_mem_of_not_mem hc hbefore)
  have hclosed : dropEndWhile (· != '\x7d') (object ++ after) = object := by
    unfold dropEndWhile
    rw [List.reverse_append, List.dropWhile_append_of_pos, hclosing, List.reverse_concat,
      List.dropWhile_cons_of_neg (by decide), List.reverse_cons, List.reverse_reverse]
    exact fun c hc => bne_iff_ne.2 (ne_of_mem_of_not_mem (List.mem_reverse.1 hc) hafter)
  rw [hopening] at hopened hclosed ⊢
  rw [List.cons_append] at hopened hclosed
  rw [braceSpan?, hopened]
  dsimp only
  rw [hclosed]

/-- Prose around an object is part of no value: what begins and ends like an object has nothing
around it. -/
theorem eq_nil_of_isValueText (h : IsObjectText object fields)
    (hbefore : IsProse before) (hafter : IsProse after)
    (hvalue : Json.IsValueText (before ++ object ++ after)) : before = [] ∧ after = [] := by
  obtain ⟨rest, hopening⟩ := h.opening
  obtain ⟨front, hclosing⟩ := h.closing
  have hhead {c : Char} {t : List Char} (hc : c ∈ structural)
      (heq : before ++ object ++ after = c :: t) : before = [] ∧ c = '\x7b' := by
    cases before with
    | nil =>
      rw [hopening] at heq
      exact ⟨rfl, (List.cons.inj heq).1.symm⟩
    | cons b before =>
      obtain ⟨rfl, -⟩ := List.cons.inj heq
      exact absurd hc (hbefore b List.mem_cons_self)
  have hlast {c : Char} {t : List Char} (hc : c ∈ structural)
      (heq : before ++ object ++ after = t ++ [c]) : after = [] := by
    rcases List.eq_nil_or_concat after with hnil | ⟨after, b, rfl⟩
    · exact hnil
    · rw [List.concat_eq_append, ← List.append_assoc] at heq
      obtain rfl : b = c := by simpa using List.append_inj_right' heq rfl
      exact absurd hc (hafter b (by simp))
  generalize htext : before ++ object ++ after = text at hvalue
  cases hvalue with
  | bare _ hbare =>
    have hbrace : '\x7b' ∈ text := by simp [← htext, hopening]
    exact absurd hbrace (Json.not_mem_of_isBare hbare (by decide))
  | string _ => exact absurd (hhead (by decide) htext).2 (by decide)
  | object _ => exact ⟨(hhead (by decide) htext).1, hlast (by decide) htext⟩
  | array _ => exact absurd (hhead (by decide) htext).2 (by decide)

theorem findValue_of_prose (h : IsObjectText object fields) (hbefore : IsProse before)
    (hafter : IsProse after) (hlimits : WithinLimits (trim (before ++ object ++ after))) :
    findValue (before ++ object ++ after) = .ok ⟨some (.obj fields), some object, none⟩ := by
  have hstart : IsProse (trimStart before) := fun c hc => hbefore c (mem_of_mem_trimStart hc)
  have hend : IsProse (trimEnd after) := fun c hc => hafter c (mem_of_mem_trimEnd hc)
  have htrim := trim_between (by decide) (by decide) h.opening h.closing before after
  have hwhole (w : Json) (hread : Json.read (trimStart before ++ object ++ trimEnd after) = .ok w) :
      trimStart before ++ object ++ trimEnd after = object := by
    have hvalue := isValueText_of_read_trim (htrim ▸ hread)
    rw [htrim] at hvalue
    obtain ⟨hnil, hnil'⟩ := eq_nil_of_isValueText h hstart hend hvalue
    rw [hnil, hnil', List.nil_append, List.append_nil]
  have hticks : '`' ∉ trimStart before ++ object ++ trimEnd after := by
    have htick : '`' ∈ structural := by decide
    rw [List.mem_append, List.mem_append]
    rintro ((hmem | hmem) | hmem)
    · exact hstart _ hmem htick
    · exact h.plain hmem
    · exact hend _ hmem htick
  have hspan : braceSpan? (trimStart before ++ object ++ trimEnd after) = some object :=
    braceSpan?_of_prose h (fun hmem => hstart _ hmem (by decide)) fun hmem => hend _ hmem (by decide)
  have hcandidates : candidates (trimStart before ++ object ++ trimEnd after) =
      [trimStart before ++ object ++ trimEnd after, object] := by
    obtain ⟨rest, hopening⟩ := h.opening
    rw [candidates, fencedTexts_of_not_mem hticks, hspan, if_neg (by simp [hopening])]
    rfl
  rw [htrim] at hlimits
  rw [findValue_eq, htrim, hcandidates]
  exact tryTexts_of_read h.read hlimits hwhole

/-- **A wrapped object is found.** Whatever words are around it, the answer has the value of the object
and its text, and no fault, provided that the whole text is not given up for its size. -/
theorem wrapped_object_is_found {content : String} (h : IsObjectText object fields)
    (hwraps : Wraps object content.toList) (hlimits : WithinLimits (trim content.toList)) :
    ∃ a, Answer.ofContent content = .ok a ∧
      a.toJson = .obj [("content", .str content), ("is_valid_json", .bool true),
        ("extracted_json", .obj fields), ("json_candidate", .str (String.ofList object)),
        ("json_error", .null)] := by
  have hfound : findValue content.toList = .ok ⟨some (.obj fields), some object, none⟩ := by
    generalize content.toList = text at hwraps hlimits ⊢
    cases hwraps with
    | fence before after hbefore => exact findValue_of_fenced h hbefore hlimits
    | prose before after hbefore hafter => exact findValue_of_prose h hbefore hafter hlimits
  refine ⟨⟨content, ⟨some (.obj fields), some object, none⟩⟩, ?_, rfl⟩
  rw [Answer.ofContent, hfound]

/-- An object with another one inside. -/
def nestedFields : Fields := [("a", .obj [("b", .str "c")])]

/-- The text of the object. -/
def nestedObject : List Char := Json.indentedAt 0 (.obj nestedFields)

theorem isObjectText_nestedObject : IsObjectText nestedObject nestedFields := by
  refine isObjectText_indentedAt (.obj (by decide) fun e he => ?_) 0 (by decide)
  obtain rfl := List.mem_singleton.1 he
  refine .obj (by decide) fun e he => ?_
  obtain rfl := List.mem_singleton.1 he
  exact .str "c"

/-- A reply with a fence, and with braces in its words. -/
def replyInFence : List Char := "A \x7bform\x7d:\n".toList ++ fenced nestedObject ++ "\nEnjoy".toList

def replyInProse : List Char := "Sure! ".toList ++ nestedObject ++ " Let me know.".toList

theorem wrapped_object_is_found_nested :
    let answer (content : String) : Json := .obj [("content", .str content),
      ("is_valid_json", .bool true), ("extracted_json", .obj nestedFields),
      ("json_candidate", .str (String.ofList nestedObject)), ("json_error", .null)]
    (∃ a, Answer.ofContent (String.ofList replyInFence) = .ok a ∧
        a.toJson = answer (String.ofList replyInFence)) ∧
      ∃ a, Answer.ofContent (String.ofList replyInProse) = .ok a ∧
        a.toJson = answer (String.ofList replyInProse) := by
  have hfence : WithinLimits (trim replyInFence) := by decide
  have hprose : WithinLimits (trim replyInProse) := by decide
  constructor
  · apply wrapped_object_is_found isObjectText_nestedObject
    · rw [String.toList_ofList]
      exact .fence _ _ (by decide)
    · rwa [String.toList_ofList]
  · apply wrapped_object_is_found isObjectText_nestedObject
    · rw [String.toList_ofList]
      exact .prose _ _ (by decide) (by decide)
    · rwa [String.toList_ofList]

end Wireframe.Reply
