import Wireframe.Naming
import Wireframe.Text.Lines

/-!
# Identifiers

* `isIdentifierPart_of_mem_lower` — the lower-case form of an identifier has the characters of one.
* `isWordChar_of_isIdentifierStart` — an identifier begins with a word character or a dollar sign.
* `isIdentifier_iff` — what `isIdentifier` lets pass besides identifiers.
* `words_cases` — where the words of a text begin.
* `isAsciiAlnum_of_mem_camelCase` — names in camel case consist of ASCII letters and digits.
-/

set_option autoImplicit false

namespace Wireframe.Naming

open Wireframe.Text

variable {c : Char}

theorem char_le_iff (c d : Char) : c ≤ d ↔ c.toNat ≤ d.toNat := by
  rw [Char.le_def, UInt32.le_iff_toNat_le]
  rfl

/-- The characters of identifiers by their code points. -/
theorem isIdentifierPart_iff : isIdentifierPart c = true ↔
    (97 ≤ c.toNat ∧ c.toNat ≤ 122) ∨ (65 ≤ c.toNat ∧ c.toNat ≤ 90) ∨ c = '_' ∨ c = '$' ∨
      (48 ≤ c.toNat ∧ c.toNat ≤ 57) := by
  simp [isIdentifierPart, isIdentifierStart, char_le_iff, or_assoc]

theorem toNat_lt_of_isIdentifierPart (h : isIdentifierPart c = true) : c.toNat < 128 := by
  rcases isIdentifierPart_iff.1 h with h | h | rfl | rfl | h
  · omega
  · omega
  · decide
  · decide
  · omega

theorem isBlank_of_isIdentifierPart (h : isIdentifierPart c = true) : isBlank c = false := by
  rw [← Bool.not_eq_true]
  intro hblank
  simp only [isBlank, inRanges, blankRanges, List.any_cons, List.any_nil, Bool.or_eq_true,
    Bool.and_eq_true, decide_eq_true_eq, Bool.false_eq_true, or_false] at hblank
  rcases isIdentifierPart_iff.1 h with h | h | rfl | rfl | h
  · omega
  · omega
  · revert hblank
    decide
  · revert hblank
    decide
  · omega

theorem toNat_ofNat {n : Nat} (h : n < 0xd800) : (Char.ofNat n).toNat = n := by
  rw [Char.ofNat, dif_pos (.inl h)]
  rfl

theorem toNat_lowerAscii (c : Char) :
    (lowerAscii c).toNat = if 65 ≤ c.toNat ∧ c.toNat ≤ 90 then c.toNat + 32 else c.toNat := by
  have hcapital : ('A' ≤ c && c ≤ 'Z') = true ↔ 65 ≤ c.toNat ∧ c.toNat ≤ 90 := by
    simp [char_le_iff]
  unfold lowerAscii
  split
  · rw [if_pos (hcapital.1 ‹_›), toNat_ofNat (by have := hcapital.1 ‹_›; omega)]
  · rw [if_neg (mt hcapital.2 ‹_›)]

theorem toNat_upperAscii (c : Char) :
    (upperAscii c).toNat = if 97 ≤ c.toNat ∧ c.toNat ≤ 122 then c.toNat - 32 else c.toNat := by
  have hsmall : ('a' ≤ c && c ≤ 'z') = true ↔ 97 ≤ c.toNat ∧ c.toNat ≤ 122 := by
    simp [char_le_iff]
  unfold upperAscii
  split
  · rw [if_pos (hsmall.1 ‹_›), toNat_ofNat (by have := hsmall.1 ‹_›; omega)]
  · rw [if_neg (mt hsmall.2 ‹_›)]

/-- Two characters have one small letter as their lower-case form: the letter and its capital. -/
theorem lowerAscii_eq_iff {d : Char} (hd : 97 ≤ d.toNat ∧ d.toNat ≤ 122) :
    lowerAscii c = d ↔ c = d ∨ c = upperAscii d := by
  rw [← Char.toNat_inj, ← Char.toNat_inj, ← Char.toNat_inj, toNat_lowerAscii, toNat_upperAscii,
    if_pos hd]
  split <;> omega

theorem isIdentifierPart_lowerAscii (h : isIdentifierPart c = true) :
    isIdentifierPart (lowerAscii c) = true := by
  simp only [isIdentifierPart_iff, ← Char.toNat_inj, toNat_lowerAscii, Char.reduceToNat] at h ⊢
  split <;> omega

/-- ASCII text is lower-cased letter by letter. -/
theorem lowerFrom_of_ascii {s : List Char} (h : ∀ c ∈ s, c.toNat < 128) (before : List Char) :
    lowerFrom before s = s.map lowerAscii := by
  induction s generalizing before with
  | nil => rfl
  | cons c rest ih =>
    obtain ⟨hc, hrest⟩ := List.forall_mem_cons.1 h
    rw [lowerFrom, if_neg (by omega), if_neg (by omega), ih hrest, lowerChar, if_pos hc]
    rfl

/-- The lower-case form of an identifier has the characters of an identifier. -/
theorem isIdentifierPart_of_mem_lower {s : List Char} (h : ∀ c ∈ s, isIdentifierPart c = true)
    (hc : c ∈ lower s) : isIdentifierPart c = true := by
  unfold lower at hc
  rw [lowerFrom_of_ascii fun d hd => toNat_lt_of_isIdentifierPart (h d hd), List.mem_map] at hc
  obtain ⟨d, hd, rfl⟩ := hc
  exact isIdentifierPart_lowerAscii (h d hd)

theorem isIdentifierPart_of_mem {s : List Char} (h : isIdentifierText s = true) (hc : c ∈ s) :
    isIdentifierPart c = true := by
  cases s with
  | nil => cases hc
  | cons d rest =>
    rw [isIdentifierText, Bool.and_eq_true, List.all_eq_true] at h
    rcases List.mem_cons.1 hc with rfl | hmem
    · rw [isIdentifierPart, h.1, Bool.true_or]
    · exact h.2 c hmem

theorem isWordChar_of_isIdentifierStart (h : isIdentifierStart c = true) (hdollar : c ≠ '$') :
    isWordChar c = true := by
  have hpart : isIdentifierPart c = true := by rw [isIdentifierPart, h, Bool.true_or]
  unfold isWordChar
  rw [if_pos (toNat_lt_of_isIdentifierPart hpart)]
  simp only [isIdentifierStart, Bool.or_eq_true, beq_iff_eq, hdollar, or_false] at h
  simp only [isAsciiAlnum, Bool.or_eq_true, beq_iff_eq]
  rcases h with (h | h) | h
  · exact .inl (.inl (.inl h))
  · exact .inl (.inl (.inr h))
  · exact .inr h

/-! ## Names in camel case -/

/-- ASCII letters and digits by their code points. -/
theorem isAsciiAlnum_iff : isAsciiAlnum c = true ↔
    (97 ≤ c.toNat ∧ c.toNat ≤ 122) ∨ (65 ≤ c.toNat ∧ c.toNat ≤ 90) ∨
      (48 ≤ c.toNat ∧ c.toNat ≤ 57) := by
  simp [isAsciiAlnum, char_le_iff, or_assoc]

theorem isIdentifierPart_of_isAsciiAlnum (h : isAsciiAlnum c = true) :
    isIdentifierPart c = true := by
  rcases isAsciiAlnum_iff.1 h with h | h | h
  · exact isIdentifierPart_iff.2 (.inl h)
  · exact isIdentifierPart_iff.2 (.inr (.inl h))
  · exact isIdentifierPart_iff.2 (.inr (.inr (.inr (.inr h))))

theorem isAsciiAlnum_lowerAscii (h : isAsciiAlnum c = true) : isAsciiAlnum (lowerAscii c) = true := by
  rw [isAsciiAlnum_iff] at h ⊢
  rw [toNat_lowerAscii]
  split <;> omega

theorem isAsciiAlnum_upperAscii (h : isAsciiAlnum c = true) : isAsciiAlnum (upperAscii c) = true := by
  rw [isAsciiAlnum_iff] at h ⊢
  rw [toNat_upperAscii]
  split <;> omega

/-- The first word of a text begins with the first ASCII letter or digit. -/
theorem words_cases (s : List Char) : (words s = [] ∧ s.find? isAsciiAlnum = none) ∨
    ∃ c w ws, words s = (c :: w) :: ws ∧ s.find? isAsciiAlnum = some c := by
  fun_induction words s with
  | case1 => exact .inl ⟨rfl, rfl⟩
  | case2 c hc => exact .inr ⟨c, [], [], rfl, List.find?_cons_of_pos hc⟩
  | case3 c hc => exact .inl ⟨rfl, List.find?_cons_of_neg hc⟩
  | case4 c d rest hc hd ih =>
    have hfind : (c :: d :: rest).find? isAsciiAlnum = some c := List.find?_cons_of_pos hc
    cases words (d :: rest) with
    | nil => exact .inr ⟨c, [], [], rfl, hfind⟩
    | cons w ws => exact .inr ⟨c, w, ws, rfl, hfind⟩
  | case5 c d rest hc hd ih => exact .inr ⟨c, [], _, rfl, List.find?_cons_of_pos hc⟩
  | case6 c d rest hc ih =>
    rw [List.find?_cons_of_neg hc]
    exact ih

theorem isAsciiAlnum_of_mem_words {s w : List Char} (hw : w ∈ words s) (hc : c ∈ w) :
    isAsciiAlnum c = true := by
  fun_induction words s generalizing w with
  | case1 => cases hw
  | case2 d hd =>
    rw [List.mem_singleton.1 hw, List.mem_singleton] at hc
    rwa [hc]
  | case3 => cases hw
  | case4 d e rest hd he ih =>
    cases hrest : words (e :: rest) with
    | nil =>
      rw [hrest, consWord, List.mem_singleton] at hw
      rw [hw, List.mem_singleton] at hc
      rwa [hc]
    | cons v vs =>
      rw [hrest] at ih
      rw [hrest, consWord] at hw
      rcases List.mem_cons.1 hw with rfl | hw
      · rcases List.mem_cons.1 hc with rfl | hc
        · exact hd
        · exact ih List.mem_cons_self hc
      · exact ih (List.mem_cons_of_mem _ hw) hc
  | case5 d e rest hd he ih =>
    rcases List.mem_cons.1 hw with rfl | hw
    · rwa [List.mem_singleton.1 hc]
    · exact ih hw hc
  | case6 d e rest hd ih => exact ih hw hc

theorem isAsciiAlnum_of_mem_decapitalize {w : List Char} (hw : ∀ c ∈ w, isAsciiAlnum c = true)
    (hc : c ∈ decapitalize w) : isAsciiAlnum c = true := by
  cases w with
  | nil => cases hc
  | cons d w =>
    rcases List.mem_cons.1 hc with rfl | hc
    · exact isAsciiAlnum_lowerAscii (hw d List.mem_cons_self)
    · exact hw c (List.mem_cons_of_mem _ hc)

theorem isAsciiAlnum_of_mem_capitalize {w : List Char} (hw : ∀ c ∈ w, isAsciiAlnum c = true)
    (hc : c ∈ capitalize w) : isAsciiAlnum c = true := by
  cases w with
  | nil => cases hc
  | cons d w =>
    rcases List.mem_cons.1 hc with rfl | hc
    · exact isAsciiAlnum_upperAscii (hw d List.mem_cons_self)
    · exact hw c (List.mem_cons_of_mem _ hc)

theorem isAsciiAlnum_of_mem_flatMap_capitalize {ws : List (List Char)}
    (hws : ∀ w ∈ ws, ∀ c ∈ w, isAsciiAlnum c = true) (hc : c ∈ ws.flatMap capitalize) :
    isAsciiAlnum c = true := by
  obtain ⟨w, hw, hc⟩ := List.mem_flatMap.1 hc
  exact isAsciiAlnum_of_mem_capitalize (hws w hw) hc

/-- A name in camel case consists of ASCII letters and digits. -/
theorem isAsciiAlnum_of_mem_camelCase {s : String} (hc : c ∈ (camelCase s).toList) :
    isAsciiAlnum c = true := by
  rw [camelCase, String.toList_ofList] at hc
  have hwords : ∀ w ∈ words s.toList, ∀ c ∈ w, isAsciiAlnum c = true := fun w hw c hc =>
    isAsciiAlnum_of_mem_words hw hc
  cases hs : words s.toList with
  | nil =>
    rw [hs] at hc
    cases hc
  | cons w ws =>
    rw [hs] at hc hwords
    obtain ⟨hw, hws⟩ := List.forall_mem_cons.1 hwords
    rcases List.mem_append.1 hc with hc | hc
    · exact isAsciiAlnum_of_mem_decapitalize hw hc
    · exact isAsciiAlnum_of_mem_flatMap_capitalize hws hc

/-- So does one in Pascal case. -/
theorem isAsciiAlnum_of_mem_pascalCase {s : String} (hc : c ∈ (pascalCase s).toList) :
    isAsciiAlnum c = true := by
  rw [pascalCase, String.toList_ofList] at hc
  exact isAsciiAlnum_of_mem_flatMap_capitalize (fun w hw c hc => isAsciiAlnum_of_mem_words hw hc) hc

theorem dropFinalLineFeed_of_not_mem {s : List Char} (h : '\n' ∉ s) : dropFinalLineFeed s = s := by
  unfold dropFinalLineFeed
  split
  · rename_i rest hrest
    have hmem : '\n' ∈ s.reverse := hrest ▸ List.mem_cons_self
    exact absurd (List.mem_reverse.1 hmem) h
  · rfl

theorem dropFinalLineFeed_concat (t : List Char) : dropFinalLineFeed (t ++ ['\n']) = t := by
  rw [dropFinalLineFeed, List.reverse_append, List.reverse_singleton, List.singleton_append]
  exact List.reverse_reverse t

theorem isIdentifier_of_isIdentifierText {s : String} (h : isIdentifierText s.toList = true) :
    isIdentifier s = true := by
  have hline : '\n' ∉ s.toList := fun hmem => absurd (isIdentifierPart_of_mem h hmem) (by decide)
  rwa [isIdentifier, dropFinalLineFeed_of_not_mem hline]

/-- What passes for an identifier is one, or one and a line feed. -/
theorem isIdentifier_iff {s : String} : isIdentifier s = true ↔ isIdentifierText s.toList = true ∨
    ∃ t, isIdentifierText t = true ∧ s.toList = t ++ ['\n'] := by
  constructor
  · intro h
    rw [isIdentifier] at h
    rcases List.eq_nil_or_concat s.toList with hnil | ⟨t, c, ht⟩
    · rw [hnil] at h
      cases h
    · rw [List.concat_eq_append] at ht
      by_cases hc : c = '\n'
      · rw [ht, hc, dropFinalLineFeed_concat] at h
        exact .inr ⟨t, h, hc ▸ ht⟩
      · have hkept : dropFinalLineFeed s.toList = s.toList := by
          rw [ht, dropFinalLineFeed, List.reverse_append, List.reverse_singleton,
            List.singleton_append]
          split
          · rename_i rest heq
            exact absurd (List.cons.inj heq).1 hc
          · rfl
        rw [hkept] at h
        exact .inl h
  · rintro (h | ⟨t, ht, hs⟩)
    · exact isIdentifier_of_isIdentifierText h
    · rwa [isIdentifier, hs, dropFinalLineFeed_concat]

/-- What passes for an identifier is one unless it ends in the line feed that is let pass. -/
theorem isIdentifierText_of_isIdentifier_iff {s : String} :
    (isIdentifier s = true → isIdentifierText s.toList = true) ↔
      ∀ t, isIdentifierText t = true → s.toList ≠ t ++ ['\n'] := by
  constructor
  · intro h t ht hs
    have htext := h (isIdentifier_iff.2 (.inr ⟨t, ht, hs⟩))
    have hmem : '\n' ∈ s.toList := hs ▸ List.mem_append_right t List.mem_cons_self
    exact absurd (isIdentifierPart_of_mem htext hmem) (by decide)
  · intro h hid
    obtain htext | ⟨t, ht, hs⟩ := isIdentifier_iff.1 hid
    · exact htext
    · exact absurd hs (h t ht)

/-- What passes for an identifier in camel case is one, with nothing behind it. -/
theorem isIdentifierText_of_camelCase {s : String} (h : isIdentifier (camelCase s) = true) :
    isIdentifierText (camelCase s).toList = true := by
  have hline : '\n' ∉ (camelCase s).toList := fun hmem =>
    absurd (isAsciiAlnum_of_mem_camelCase hmem) (by decide)
  rwa [isIdentifier, dropFinalLineFeed_of_not_mem hline] at h

/-! ## Hyphenated names -/

theorem mem_hyphenate {s : List Char} (hc : c ∈ hyphenate s) : c ∈ s ∨ c = '-' := by
  fun_induction hyphenate s with
  | case1 => cases hc
  | case2 d => exact .inl hc
  | case3 d e rest hump ih =>
    rcases List.mem_cons.1 hc with rfl | hc
    · exact .inl List.mem_cons_self
    · rcases List.mem_cons.1 hc with rfl | hc
      · exact .inr rfl
      · exact (ih hc).imp_left (List.mem_cons_of_mem d)
  | case4 d e rest hump ih =>
    rcases List.mem_cons.1 hc with rfl | hc
    · exact .inl List.mem_cons_self
    · exact (ih hc).imp_left (List.mem_cons_of_mem d)

/-- The hyphenated form of an identifier has the characters of one, and hyphens. -/
theorem isIdentifierPart_of_mem_kebabCase {s : String}
    (h : ∀ c ∈ s.toList, isIdentifierPart c = true) (hc : c ∈ (kebabCase s).toList) :
    isIdentifierPart c = true ∨ c = '-' := by
  have hparts : ∀ d ∈ hyphenate s.toList, isIdentifierPart d = true ∨ d = '-' := fun d hd =>
    (mem_hyphenate hd).imp_left (h d)
  have hascii : ∀ d ∈ hyphenate s.toList, d.toNat < 128 := by
    intro d hd
    rcases hparts d hd with hpart | rfl
    · exact toNat_lt_of_isIdentifierPart hpart
    · decide
  rw [kebabCase, String.toList_ofList, lower, lowerFrom_of_ascii hascii] at hc
  obtain ⟨d, hd, rfl⟩ := List.mem_map.1 hc
  rcases hparts d hd with hpart | rfl
  · exact .inl (isIdentifierPart_lowerAscii hpart)
  · exact .inr rfl

end Wireframe.Naming
