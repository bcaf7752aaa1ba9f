import Wireframe.Json.Writer
import Wireframe.Proofs.Json.Fields

/-!
# Reading what was written

A value that is made of texts comes back from its indented text, whatever stands behind it.

* `stringBody_writtenChar`, `stringBody_writtenHalf` — every character comes back from the way it is
  written in a string, characters beyond the basic plane from a pair of escapes, and halves of such pairs.
* `string_writtenString` — a written text is read up to its closing quote.
* `IsTextual.readsBack` — a value of texts, arrays and objects is read as it was, and reading stops
  where its text ends.
* `leading_indentedAt`, `read_indentedAt` — the same for the first value of a text, and for a text that
  is the value.
-/

set_option autoImplicit false

namespace Wireframe.Json

open Text

/-! ## Escapes -/

variable {n : Nat} {rest : List Char}

theorem hexValue?_digitChar (h : n < 16) : hexValue? n.digitChar = some n := by
  have hall : ∀ d < 16, hexValue? d.digitChar = some d := by decide
  exact hall n h

theorem hexDigits_one (h : n < 16) : hexDigits 1 n = [n.digitChar] := by
  simp [hexDigits, Nat.toDigits_of_lt_base h]

/-- The last digit is the remainder; the others are those of the quotient. -/
theorem hexDigits_succ {width : Nat} (hwidth : 0 < width) (n : Nat) :
    hexDigits (width + 1) n = hexDigits width (n / 16) ++ [(n % 16).digitChar] := by
  unfold hexDigits
  by_cases hn : n < 16
  · obtain ⟨w, rfl⟩ : ∃ w, width = w + 1 := ⟨width - 1, by omega⟩
    rw [Nat.toDigits_of_lt_base hn, Nat.div_eq_of_lt hn, Nat.toDigits_of_lt_base (by omega : 0 < 16),
      Nat.mod_eq_of_lt hn]
    simp [List.replicate_succ', Nat.digitChar]
  · simp [Nat.toDigits_of_base_le (by omega : 1 < 16) (by omega : 16 ≤ n)]

theorem hexDigits_four (h : n < 0x10000) :
    hexDigits 4 n = [(n / 16 / 16 / 16).digitChar, (n / 16 / 16 % 16).digitChar,
      (n / 16 % 16).digitChar, (n % 16).digitChar] := by
  rw [hexDigits_succ (by omega), hexDigits_succ (by omega), hexDigits_succ (by omega),
    hexDigits_one (by omega)]
  rfl

theorem hexFour?_hexDigits (h : n < 0x10000) (hrest : rest ≠ []) :
    hexFour? (hexDigits 4 n ++ rest) = some n := by
  obtain ⟨c, t, rfl⟩ := List.exists_cons_of_ne_nil hrest
  have hfirst : hexValue? (n / 16 / 16 / 16).digitChar = some (n / 16 / 16 / 16) :=
    hexValue?_digitChar (by omega)
  have hdigit (k : Nat) : hexValue? (k % 16).digitChar = some (k % 16) :=
    hexValue?_digitChar (Nat.mod_lt k (by omega))
  rw [hexDigits_four h]
  simp only [List.cons_append, List.nil_append, hexFour?, hfirst, hdigit, Option.bind_eq_bind,
    Option.bind_some, Option.some.injEq]
  omega

theorem drop_hexDigits (h : n < 0x10000) (rest : List Char) :
    (hexDigits 4 n ++ rest).drop 4 = rest := by
  rw [hexDigits_four h]
  rfl

theorem lt_of_isHighSurrogate (h : isHighSurrogate n = true) : n < 0x10000 := by
  simp only [isHighSurrogate, Bool.and_eq_true, decide_eq_true_eq] at h
  omega

theorem lt_of_isLowSurrogate (h : isLowSurrogate n = true) : n < 0x10000 := by
  simp only [isLowSurrogate, Bool.and_eq_true, decide_eq_true_eq] at h
  omega

/-- The escape of a unit that is no half of a pair. -/
theorem unicodeEscape_hexDigits (h : n < 0x10000) (hhigh : isHighSurrogate n = false)
    (hrest : rest ≠ []) : unicodeEscape (hexDigits 4 n ++ rest) = some (charOfCode n, 4) := by
  unfold unicodeEscape
  rw [hexFour?_hexDigits h hrest]
  simp only [Option.bind_eq_bind, Option.bind_some, hhigh]

/-- The escapes of a pair. -/
theorem unicodeEscape_pair {high low : Nat} (hhigh : isHighSurrogate high = true)
    (hlow : isLowSurrogate low = true) (hrest : rest ≠ []) :
    unicodeEscape (hexDigits 4 high ++ (unitEscape low ++ rest)) = some (charOfPair high low, 10) := by
  have hfour := lt_of_isHighSurrogate hhigh
  unfold unicodeEscape
  rw [hexFour?_hexDigits hfour (by simp [unitEscape]), drop_hexDigits hfour]
  simp only [Option.bind_eq_bind, Option.bind_some, hhigh, unitEscape, List.cons_append,
    hexFour?_hexDigits (lt_of_isLowSurrogate hlow) hrest, hlow, if_true]

/-- A text that does not begin with the escape of a second half. -/
def NoLowAhead (s : List Char) : Prop :=
  ∀ digits low, s = '\\' :: 'u' :: digits → hexFour? digits = some low → isLowSurrogate low = false

/-- The escape of a unit behind which no second half stands. -/
theorem unicodeEscape_alone (h : n < 0x10000) (hrest : rest ≠ []) (halone : NoLowAhead rest) :
    unicodeEscape (hexDigits 4 n ++ rest) = some (charOfCode n, 4) := by
  unfold unicodeEscape
  rw [hexFour?_hexDigits h hrest, drop_hexDigits h]
  simp only [Option.bind_eq_bind, Option.bind_some]
  split
  · rename_i digits heq
    cases hfour : hexFour? digits with
    | none => rfl
    | some low => simp only [halone digits low rfl hfour, Bool.false_eq_true, if_false]
  · rfl

/-! ## Strings -/

variable {opening : List Char} {c : Char}

/-- The characters of an escape that has been read are passed over. -/
theorem stringBody_skip (opening escape rest : List Char) :
    stringBody opening escape.length (escape ++ rest) = stringBody opening 0 rest := by
  induction escape with
  | nil => rfl
  | cons c escape ih => rw [List.length_cons, List.cons_append, stringBody, ih]

theorem stringBody_plain (hquote : c ≠ '"') (hcontrol : ¬c.toNat < 0x20) (hslash : c ≠ '\\')
    (rest : List Char) :
    stringBody opening 0 (c :: rest) =
      (stringBody opening 0 rest).map fun (text, after) => (c :: text, after) := by
  rw [stringBody.eq_def opening 0 (c :: rest)]
  simp only [if_neg hquote, if_neg hcontrol, if_pos hslash]

theorem stringBody_simpleEscape {e : Char} (he : simpleEscape? e = some c) (rest : List Char) :
    stringBody opening 0 ('\\' :: e :: rest) =
      (stringBody opening 0 rest).map fun (text, after) => (c :: text, after) := by
  have hu : e = 'u' → False := by
    rintro rfl
    cases he
  rw [stringBody, if_neg (by decide), if_neg (by decide), if_neg (by decide), he]
  · exact congrArg (Except.map _) (stringBody_skip opening [e] rest)
  · exact hu

theorem stringBody_unicodeEscape {digits : List Char}
    (h : unicodeEscape (digits ++ rest) = some (c, digits.length)) :
    stringBody opening 0 ('\\' :: 'u' :: (digits ++ rest)) =
      (stringBody opening 0 rest).map fun (text, after) => (c :: text, after) := by
  rw [stringBody, if_neg (by decide), if_neg (by decide), if_neg (by decide)]
  simp only [h]
  exact congrArg (Except.map _) (stringBody_skip opening ('u' :: digits) rest)

theorem length_hexDigits (h : n < 0x10000) : (hexDigits 4 n).length = 4 := by
  rw [hexDigits_four h]
  rfl

theorem isHalf_eq_false (h : c.toNat < 0x10000) : isHalf c = false := by
  simp only [isHalf, Bool.and_eq_false_iff, decide_eq_false_iff_not]
  omega

/-- A character of the basic plane comes back from its escape. -/
theorem stringBody_unitEscape (h : c.toNat < 0x10000) (hrest : rest ≠ []) :
    stringBody opening 0 (unitEscape c.toNat ++ rest) =
      (stringBody opening 0 rest).map fun (text, after) => (c :: text, after) := by
  have hhigh : isHighSurrogate c.toNat = false := by
    have hvalid : c.toNat.isValidChar := c.valid
    simp only [isHighSurrogate, Bool.and_eq_false_iff, decide_eq_false_iff_not]
    simp only [Nat.isValidChar] at hvalid
    omega
  have hescape := unicodeEscape_hexDigits h hhigh hrest
  rw [charOfCode_toNat (isHalf_eq_false h)] at hescape
  refine stringBody_unicodeEscape ?_
  rw [hescape, length_hexDigits h]

/-- A character comes back from the pair of escapes that stands for it. -/
theorem stringBody_pair {high low : Nat} (hhigh : isHighSurrogate high = true)
    (hlow : isLowSurrogate low = true) (hpair : charOfPair high low = c) (hrest : rest ≠ []) :
    stringBody opening 0 (unitEscape high ++ (unitEscape low ++ rest)) =
      (stringBody opening 0 rest).map fun (text, after) => (c :: text, after) := by
  have hescape := unicodeEscape_pair hhigh hlow hrest
  have hdigits : unicodeEscape (hexDigits 4 high ++ unitEscape low ++ rest) =
      some (c, (hexDigits 4 high ++ unitEscape low).length) := by
    rw [List.append_assoc, hescape, hpair, List.length_append, unitEscape, List.length_cons,
      List.length_cons, length_hexDigits (lt_of_isHighSurrogate hhigh),
      length_hexDigits (lt_of_isLowSurrogate hlow)]
  have hbody : stringBody opening 0
        ('\\' :: 'u' :: (hexDigits 4 high ++ unitEscape low ++ rest)) = _ :=
    stringBody_unicodeEscape hdigits
  rwa [List.append_assoc] at hbody

/-- A character beyond the basic plane is the one of its pair. -/
theorem pair_of_toNat (hhalf : isHalf c = false) (h : 0x10000 ≤ c.toNat) :
    isHighSurrogate (0xd800 + (c.toNat - 0x10000) / 0x400) = true ∧
      isLowSurrogate (0xdc00 + (c.toNat - 0x10000) % 0x400) = true ∧
      charOfPair (0xd800 + (c.toNat - 0x10000) / 0x400)
        (0xdc00 + (c.toNat - 0x10000) % 0x400) = c := by
  have hvalid : c.toNat.isValidChar := c.valid
  simp only [Nat.isValidChar] at hvalid
  refine ⟨?_, ?_, ?_⟩
  · simp only [isHighSurrogate, Bool.and_eq_true, decide_eq_true_eq]
    omega
  · simp only [isLowSurrogate, Bool.and_eq_true, decide_eq_true_eq]
    omega
  · unfold charOfPair
    rw [show 0x10000 + (0xd800 + (c.toNat - 0x10000) / 0x400 - 0xd800) * 0x400 +
      (0xdc00 + (c.toNat - 0x10000) % 0x400 - 0xdc00) = c.toNat by omega, charOfCode_toNat hhalf]

/-- **Every character comes back from the way it is written in a string.** -/
theorem stringBody_writtenChar (hhalf : isHalf c = false) (hrest : rest ≠ []) :
    stringBody opening 0 (writtenChar c ++ rest) =
      (stringBody opening 0 rest).map fun (text, after) => (c :: text, after) := by
  have hsimple {d e : Char} (hc : (c == d) = true) (he : simpleEscape? e = some d) :
      stringBody opening 0 ('\\' :: e :: rest) =
        (stringBody opening 0 rest).map fun (text, after) => (c :: text, after) := by
    rw [beq_iff_eq.1 hc]
    exact stringBody_simpleEscape he rest
  fun_cases writtenChar c with
  | case1 h => exact hsimple h rfl
  | case2 _ h => exact hsimple h rfl
  | case3 _ _ h => exact hsimple h rfl
  | case4 _ _ _ h => exact hsimple h rfl
  | case5 _ _ _ _ h => exact hsimple h rfl
  | case6 _ _ _ _ _ h => exact hsimple h rfl
  | case7 _ _ _ _ _ _ h => exact hsimple h rfl
  | case8 hquote hslash _ _ _ _ _ hplain =>
    simp only [Bool.and_eq_true, decide_eq_true_eq] at hplain
    exact stringBody_plain (by simpa using hquote) (by omega) (by simpa using hslash) rest
  | case9 _ _ _ _ _ _ _ _ hbasic => exact stringBody_unitEscape hbasic hrest
  | case10 _ _ _ _ _ _ _ _ hbasic =>
    obtain ⟨hhigh, hlow, hpair⟩ := pair_of_toNat hhalf (by omega)
    rw [List.append_assoc]
    exact stringBody_pair hhigh hlow hpair hrest

theorem noLowAhead_cons (hc : c ≠ '\\') (rest : List Char) : NoLowAhead (c :: rest) := by
  intro digits low heq
  exact absurd (List.cons.inj heq).1 hc

theorem noLowAhead_escape {e : Char} (he : e ≠ 'u') (rest : List Char) :
    NoLowAhead ('\\' :: e :: rest) := by
  intro digits low heq
  exact absurd (List.cons.inj (List.cons.inj heq).2).1 he

theorem noLowAhead_unitEscape (h : n < 0x10000) (hlow : isLowSurrogate n = false) (hrest : rest ≠ []) :
    NoLowAhead (unitEscape n ++ rest) := by
  intro digits low heq hfour
  rw [← (List.cons.inj (List.cons.inj heq).2).2] at hfour
  cases (hexFour?_hexDigits h hrest).symm.trans hfour
  exact hlow

theorem isLowSurrogate_toNat (c : Char) : isLowSurrogate c.toNat = false := by
  have hvalid : c.toNat.isValidChar := c.valid
  simp only [isLowSurrogate, Bool.and_eq_false_iff, decide_eq_false_iff_not]
  simp only [Nat.isValidChar] at hvalid
  omega

theorem isLowSurrogate_of_isHighSurrogate (h : isHighSurrogate n = true) : isLowSurrogate n = false := by
  simp only [isHighSurrogate, Bool.and_eq_true, decide_eq_true_eq] at h
  simp only [isLowSurrogate, Bool.and_eq_false_iff, decide_eq_false_iff_not]
  omega

/-- No character is written as the second half of a pair. -/
theorem noLowAhead_writtenChar (hhalf : isHalf c = false) (hrest : rest ≠ []) :
    NoLowAhead (writtenChar c ++ rest) := by
  fun_cases writtenChar c with
  | case8 _ hslash => exact noLowAhead_cons (by simpa using hslash) rest
  | case9 _ _ _ _ _ _ _ _ hbasic => exact noLowAhead_unitEscape hbasic (isLowSurrogate_toNat c) hrest
  | case10 _ _ _ _ _ _ _ _ hbasic =>
    obtain ⟨hhigh, -, -⟩ := pair_of_toNat hhalf (by omega)
    rw [List.append_assoc]
    exact noLowAhead_unitEscape (lt_of_isHighSurrogate hhigh)
      (isLowSurrogate_of_isHighSurrogate hhigh) (List.cons_ne_nil _ _)
  | _ => exact noLowAhead_escape (by decide) rest

theorem writtenText_cons (c : Char) (s : List Char) : writtenText (c :: s) =
    (if isHalf c then writtenHalf c s else writtenChar c) ++ writtenText s := rfl

theorem codeOf_lt_of_isHalf (h : isHalf c = true) : codeOf c < 0x10000 := by
  rcases isSurrogate_codeOf h with h | h
  · exact lt_of_isHighSurrogate h
  · exact lt_of_isLowSurrogate h

/-- A text that does not begin with a second half is not written as one that does. -/
theorem noLowAhead_writtenText {s : List Char}
    (h : (s.head?.any fun d => isLowSurrogate (codeOf d)) = false) (rest : List Char) :
    NoLowAhead (writtenText s ++ '"' :: rest) := by
  cases s with
  | nil => exact noLowAhead_cons (by decide) rest
  | cons d s =>
    rw [writtenText_cons, List.append_assoc]
    split
    · rename_i hhalf
      unfold writtenHalf
      split
      · refine noLowAhead_cons ?_ _
        rintro rfl
        exact absurd hhalf (by decide)
      · exact noLowAhead_unitEscape (codeOf_lt_of_isHalf hhalf) h (by simp)
    · rename_i hhalf
      exact noLowAhead_writtenChar (Bool.not_eq_true _ ▸ hhalf) (by simp)

/-- Half of a pair comes back from the way it is written in front of a text. -/
theorem stringBody_writtenHalf (h : isHalf c = true) (s rest : List Char) :
    stringBody opening 0 (writtenHalf c s ++ (writtenText s ++ '"' :: rest)) =
      (stringBody opening 0 (writtenText s ++ '"' :: rest)).map
        fun (text, after) => (c :: text, after) := by
  unfold writtenHalf
  split
  · have hrange := h
    simp only [isHalf, Bool.and_eq_true, decide_eq_true_eq] at hrange
    refine stringBody_plain ?_ (by omega) ?_ _
    · rintro rfl
      exact absurd h (by decide)
    · rintro rfl
      exact absurd h (by decide)
  · rename_i hlone
    have hcode := codeOf_lt_of_isHalf h
    refine stringBody_unicodeEscape ?_
    rw [length_hexDigits hcode]
    cases hhigh : isHighSurrogate (codeOf c) with
    | false => rw [unicodeEscape_hexDigits hcode hhigh (by simp), charOfCode_codeOf h]
    | true =>
      rw [hhigh, Bool.true_and, Bool.not_eq_true] at hlone
      rw [unicodeEscape_alone hcode (by simp) (noLowAhead_writtenText hlone rest), charOfCode_codeOf h]

theorem stringBody_written (opening s rest : List Char) :
    stringBody opening 0 (writtenText s ++ '"' :: rest) = .ok (s, rest) := by
  induction s with
  | nil => rfl
  | cons c s ih =>
    rw [writtenText_cons, List.append_assoc]
    cases hhalf : isHalf c with
    | true =>
      rw [if_pos rfl, stringBody_writtenHalf hhalf, ih]
      rfl
    | false =>
      rw [if_neg Bool.false_ne_true, stringBody_writtenChar hhalf (by simp), ih]
      rfl

/-- A written text is read as the text that it is, up to its closing quote. -/
theorem string_writtenString (s : String) (rest : List Char) :
    string (writtenString s.toList ++ rest) = .ok (s, rest) := by
  unfold string writtenString
  simp only [List.cons_append, List.append_assoc, List.nil_append, List.tail_cons, stringBody_written,
    Except.map, String.ofList_toList]

/-! ## Values -/

/-- A value made of texts, with containers nested no deeper than `depth` and distinct keys in every
object. -/
inductive IsTextual : Nat → Json → Prop
  | str {depth : Nat} (s : String) : IsTextual depth (.str s)
  | arr {depth : Nat} {items : List Json} (h : ∀ v ∈ items, IsTextual depth v) :
      IsTextual (depth + 1) (.arr items)
  | obj {depth : Nat} {fields : Fields} (hkeys : fields.keys.Nodup)
      (h : ∀ e ∈ fields, IsTextual depth e.2) : IsTextual (depth + 1) (.obj fields)

/-- A value that is read from its text at any depth of indentation, with whatever behind it. As much
fuel as the text is long is enough. -/
def ReadsBack (depth : Nat) (v : Json) : Prop :=
  ∀ level fuel rest, (indentedAt level v).length ≤ fuel →
    value fuel depth (indentedAt level v ++ rest) = .ok (v, rest)

variable {depth level fuel : Nat} {v : Json}

theorem skipGap_newLine (level : Nat) (s : List Char) : skipGap (newLine level ++ s) = skipGap s := by
  unfold skipGap newLine
  rw [List.cons_append, List.dropWhile_cons_of_pos (by decide), List.dropWhile_append_of_pos]
  intro c hc
  rw [List.eq_of_mem_replicate hc]
  rfl

theorem skipGap_cons (h : isGap c = false) (s : List Char) : skipGap (c :: s) = c :: s := by
  unfold skipGap
  rw [List.dropWhile_cons_of_neg (by simp [h])]

theorem skipGap_writtenString (s rest : List Char) :
    skipGap (writtenString s ++ rest) = writtenString s ++ rest := skipGap_cons rfl _

/-- The text of such a value begins with a quote or an opening bracket. -/
theorem IsTextual.exists_cons (h : IsTextual depth v) (level : Nat) :
    ∃ c t, indentedAt level v = c :: t ∧ isGap c = false ∧ c ≠ ']' ∧ c ≠ '\uFEFF' := by
  cases h with
  | str s => exact ⟨'"', _, by rw [indentedAt, writtenString], by decide, by decide, by decide⟩
  | @arr depth items h =>
    cases items with
    | nil => exact ⟨'[', [']'], by rw [indentedAt], by decide, by decide, by decide⟩
    | cons v items => exact ⟨'[', _, by rw [indentedAt]; exact nofun, by decide, by decide, by decide⟩
  | @obj depth fields hkeys h =>
    cases fields with
    | nil => exact ⟨'\x7b', ['\x7d'], by rw [indentedAt], by decide, by decide, by decide⟩
    | cons e fields =>
      exact ⟨'\x7b', _, by rw [indentedAt]; exact nofun, by decide, by decide, by decide⟩

theorem IsTextual.skipGap_append (h : IsTextual depth v) (level : Nat) (s : List Char) :
    skipGap (indentedAt level v ++ s) = indentedAt level v ++ s := by
  obtain ⟨c, t, htext, hgap, -⟩ := h.exists_cons level
  rw [htext, List.cons_append, skipGap_cons hgap]

theorem itemLines_cons {items : List Json} (hne : items ≠ []) (level : Nat) (v : Json) :
    itemLines level (v :: items) =
      newLine level ++ indentedAt level v ++ ',' :: itemLines level items := by
  rw [itemLines]
  exact hne

theorem fieldLines_cons {fields : Fields} (hne : fields ≠ []) (level : Nat) (key : String)
    (v : Json) :
    fieldLines level ((key, v) :: fields) =
      newLine level ++ writtenString key.toList ++ ':' :: ' ' :: indentedAt level v ++
        ',' :: fieldLines level fields := by
  rw [fieldLines]
  exact hne

theorem skipGap_itemLines_ne (hv : IsTextual depth v) (level : Nat) (items : List Json)
    (s t : List Char) : skipGap (itemLines level (v :: items) ++ s) ≠ ']' :: t := by
  obtain ⟨more, hlines⟩ : ∃ more, itemLines level (v :: items) =
      newLine level ++ (indentedAt level v ++ more) := by
    by_cases hlast : items = []
    · subst hlast
      exact ⟨[], by rw [itemLines, List.append_nil]⟩
    · exact ⟨_, by rw [itemLines_cons hlast, List.append_assoc]⟩
  obtain ⟨c, text, htext, -, hc, -⟩ := hv.exists_cons level
  rw [hlines, List.append_assoc, skipGap_newLine, List.append_assoc, hv.skipGap_append, htext]
  exact fun heq => hc (List.cons.inj heq).1

theorem skipGap_fieldLines_ne (level : Nat) (e : String × Json) (fields : Fields) (s t : List Char) :
    skipGap (fieldLines level (e :: fields) ++ s) ≠ '\x7d' :: t := by
  obtain ⟨more, hlines⟩ : ∃ more, fieldLines level (e :: fields) =
      newLine level ++ (writtenString e.1.toList ++ more) := by
    by_cases hlast : fields = []
    · subst hlast
      exact ⟨_, by rw [fieldLines, List.append_assoc]⟩
    · exact ⟨_, by rw [fieldLines_cons hlast, List.append_assoc, List.append_assoc]⟩
  rw [hlines, List.append_assoc, skipGap_newLine, List.append_assoc, skipGap_writtenString]
  exact fun heq => absurd (List.cons.inj heq).1 (by decide)

/-- Items come back one by one; `outer` is the level at which their array ends. -/
theorem elements_itemLines {items : List Json} (hne : items ≠ [])
    (htextual : ∀ v ∈ items, IsTextual depth v) (hreads : ∀ v ∈ items, ReadsBack depth v)
    (hfuel : (itemLines level items).length ≤ fuel) (outer : Nat) (rest : List Char) :
    elements fuel depth (skipGap (itemLines level items ++ (newLine outer ++ ']' :: rest))) =
      .ok (items, rest) := by
  induction items generalizing fuel with
  | nil => exact absurd rfl hne
  | cons v items ih =>
    obtain ⟨hv, hitems⟩ := List.forall_mem_cons.1 htextual
    obtain ⟨hread, hreads⟩ := List.forall_mem_cons.1 hreads
    by_cases hlast : items = []
    · subst hlast
      simp only [itemLines, newLine, List.length_append, List.length_cons] at hfuel
      obtain ⟨f, rfl⟩ : ∃ f, fuel = f + 1 := ⟨fuel - 1, by omega⟩
      rw [itemLines, List.append_assoc, skipGap_newLine, hv.skipGap_append, elements,
        hread level f _ (by omega)]
      simp only [bind, Except.bind, skipGap_newLine, skipGap_cons (show isGap ']' = false from rfl)]
    · simp only [itemLines_cons hlast, newLine, List.length_append, List.length_cons] at hfuel
      obtain ⟨f, rfl⟩ : ∃ f, fuel = f + 1 := ⟨fuel - 1, by omega⟩
      have hrest := ih hlast hitems hreads (show (itemLines level items).length ≤ f by omega)
      rw [itemLines_cons hlast, List.append_assoc, List.append_assoc, skipGap_newLine,
        hv.skipGap_append, elements, hread level f _ (by omega)]
      simp only [bind, Except.bind, List.cons_append, skipGap_cons (show isGap ',' = false from rfl),
        hrest]

/-- What is read behind the value of a field: the end of the object, or further fields. -/
def membersBehind (fuel depth : Nat) (fields : Fields) (s : List Char) :
    Except Stop (Fields × List Char) :=
  match skipGap s with
  | '\x7d' :: after => .ok (fields, after)
  | ',' :: rest => members fuel depth fields (skipGap rest)
  | rest => .error (.malformed .expectingComma rest)

/-- A field is read up to the mark behind it. -/
theorem members_writtenString (hv : IsTextual depth v) (hread : ReadsBack depth v)
    (hfuel : (indentedAt level v).length ≤ fuel) (before : Fields) (key : String) (s : List Char) :
    members (fuel + 1) depth before
        (writtenString key.toList ++ ':' :: ' ' :: (indentedAt level v ++ s)) =
      membersBehind fuel depth (before.set key v) s := by
  have hstring := string_writtenString key (':' :: ' ' :: (indentedAt level v ++ s))
  have hblank : skipGap (' ' :: (indentedAt level v ++ s)) = indentedAt level v ++ s :=
    hv.skipGap_append level s
  rw [writtenString, List.cons_append] at hstring ⊢
  rw [members, hstring]
  simp only [bind, Except.bind, skipGap_cons (show isGap ':' = false from rfl), hblank,
    hread level fuel s hfuel]
  rfl

/-- Fields come back one by one behind those that are read already; `outer` is the level at which
their object ends. -/
theorem members_fieldLines {fields : Fields} (before : Fields) (hne : fields ≠ [])
    (hkeys : Fields.keys (before ++ fields) |>.Nodup)
    (htextual : ∀ e ∈ fields, IsTextual depth e.2) (hreads : ∀ e ∈ fields, ReadsBack depth e.2)
    (hfuel : (fieldLines level fields).length ≤ fuel) (outer : Nat) (rest : List Char) :
    members fuel depth before
        (skipGap (fieldLines level fields ++ (newLine outer ++ '\x7d' :: rest))) =
      .ok (before ++ fields, rest) := by
  induction fields generalizing fuel before with
  | nil => exact absurd rfl hne
  | cons e fields ih =>
    obtain ⟨key, v⟩ := e
    obtain ⟨hv, hfields⟩ := List.forall_mem_cons.1 htextual
    obtain ⟨hread, hreads⟩ := List.forall_mem_cons.1 hreads
    have hset : before.set key v = before ++ [(key, v)] := by
      refine Fields.set_of_not_mem (fun hmem => ?_) v
      rw [Fields.keys, List.map_append, List.nodup_append] at hkeys
      exact hkeys.2.2 key hmem key List.mem_cons_self rfl
    by_cases hlast : fields = []
    · subst hlast
      simp only [fieldLines, newLine, List.length_append, List.length_cons] at hfuel
      obtain ⟨f, rfl⟩ : ∃ f, fuel = f + 1 := ⟨fuel - 1, by omega⟩
      simp only [fieldLines, List.append_assoc, List.cons_append, skipGap_newLine,
        skipGap_writtenString]
      rw [members_writtenString (v := v) hv hread (by omega), membersBehind]
      simp only [skipGap_newLine, skipGap_cons (show isGap '\x7d' = false from rfl), hset]
    · simp only [fieldLines_cons hlast, newLine, List.length_append, List.length_cons] at hfuel
      obtain ⟨f, rfl⟩ : ∃ f, fuel = f + 1 := ⟨fuel - 1, by omega⟩
      have hkeys' : Fields.keys (before ++ [(key, v)] ++ fields) |>.Nodup := by
        rwa [List.append_assoc]
      have hrest := ih (before ++ [(key, v)]) hlast hkeys' hfields hreads
        (show (fieldLines level fields).length ≤ f by omega)
      simp only [fieldLines_cons hlast, List.append_assoc, List.cons_append, skipGap_newLine,
        skipGap_writtenString]
      rw [members_writtenString (v := v) hv hread (by omega), membersBehind]
      simp only [skipGap_cons (show isGap ',' = false from rfl), hset, hrest, List.append_assoc,
        List.cons_append, List.nil_append]

theorem value_str (s : String) (fuel depth : Nat) (rest : List Char) :
    value (fuel + 1) depth (writtenString s.toList ++ rest) = .ok (.str s, rest) := by
  have hstring := string_writtenString s rest
  rw [writtenString, List.cons_append] at hstring ⊢
  rw [value, hstring]
  rfl

/-- **A value made of texts is read from its indented text as it was**, and reading stops where its
text ends. -/
theorem IsTextual.readsBack (h : IsTextual depth v) : ReadsBack depth v := by
  -- on the nesting; the collections are read item by item and field by field
  induction h with
  | str s =>
    intro level fuel rest hfuel
    rw [indentedAt, writtenString, List.length_cons] at hfuel
    obtain ⟨f, rfl⟩ : ∃ f, fuel = f + 1 := ⟨fuel - 1, by omega⟩
    rw [indentedAt, value_str]
  | @arr depth items hitems ih =>
    intro level fuel rest hfuel
    cases items with
    | nil =>
      simp only [indentedAt, List.length_cons] at hfuel
      obtain ⟨f, rfl⟩ : ∃ f, fuel = f + 1 := ⟨fuel - 1, by omega⟩
      rfl
    | cons v more =>
      simp only [indentedAt, List.length_cons, List.length_append] at hfuel
      obtain ⟨f, rfl⟩ : ∃ f, fuel = f + 1 := ⟨fuel - 1, by omega⟩
      have helements := elements_itemLines (List.cons_ne_nil v more) hitems ih
        (show (itemLines (level + 1) (v :: more)).length ≤ f by omega) level rest
      simp only [indentedAt, List.cons_append, List.append_assoc, List.nil_append]
      rw [value]
      split
      · rename_i heq
        exact absurd heq (skipGap_itemLines_ne (hitems v List.mem_cons_self) _ _ _ _)
      · rw [helements]
        rfl
  | @obj depth fields hkeys hfields ih =>
    intro level fuel rest hfuel
    cases fields with
    | nil =>
      simp only [indentedAt, List.length_cons] at hfuel
      obtain ⟨f, rfl⟩ : ∃ f, fuel = f + 1 := ⟨fuel - 1, by omega⟩
      rfl
    | cons e more =>
      simp only [indentedAt, List.length_cons, List.length_append] at hfuel
      obtain ⟨f, rfl⟩ : ∃ f, fuel = f + 1 := ⟨fuel - 1, by omega⟩
      have hmembers := members_fieldLines [] (List.cons_ne_nil e more) hkeys hfields ih
        (show (fieldLines (level + 1) (e :: more)).length ≤ f by omega) level rest
      simp only [indentedAt, List.cons_append, List.append_assoc, List.nil_append]
      rw [value]
      split
      · rename_i heq
        exact absurd heq (skipGap_fieldLines_ne _ _ _ _ _)
      · rw [hmembers]
        rfl

/-- The first value of a text, and what follows it. -/
def leading (s : List Char) : Except Stop (Json × List Char) :=
  value (2 * s.length + 2) maxDepth s

/-- The first value of a text that begins with a written value is that value. -/
theorem leading_indentedAt (h : IsTextual maxDepth v) (level : Nat) (rest : List Char) :
    leading (indentedAt level v ++ rest) = .ok (v, rest) := by
  refine h.readsBack level _ rest ?_
  rw [List.length_append]
  omega

/-- **A text that was written for a value is read as the value.** -/
theorem read_indentedAt (h : IsTextual maxDepth v) (level : Nat) :
    read (indentedAt level v) = .ok v := by
  have hskip := h.skipGap_append level []
  have hvalue := leading_indentedAt h level []
  unfold leading at hvalue
  rw [List.append_nil] at hskip hvalue
  have hwhole : readWhole (indentedAt level v) = .ok v := by
    obtain ⟨c, t, htext, -, -, hmark⟩ := h.exists_cons level
    unfold readWhole
    split
    · rename_i heq
      rw [htext] at heq
      exact absurd (List.cons.inj heq).1 hmark
    · rw [hskip, hvalue]
      rfl
  rw [read, hwhole]

end Wireframe.Json
