import Wireframe.Proofs.Json.Reader
import Wireframe.Proofs.Text.Search

/-!
# The text of a value

What is read as a value begins and ends in its own way: a word or a number has no quote, bracket or
brace, a string stands between quotes on one line, and an object and an array stand between their
braces and brackets.

* `TicksQuoted` — the property of such texts that a backtick in them belongs to a string.
* `IsValueText` — the form of the text of one value.
* `readers_take` — what the readers of values, fields and items take of a text.
* `exists_text_of_read` — a text that is read is the text of one value with blanks around it.
-/

set_option autoImplicit false

namespace Wireframe.Json

/-! ## Backticks in strings -/

/-- Every backtick of a text stands in a string: a quote follows it on its line. -/
def TicksQuoted (s : List Char) : Prop :=
  ∀ a b, s = a ++ '`' :: b → ∃ d e, b = d ++ '"' :: e ∧ '\n' ∉ d

variable {s t rest after : List Char}

theorem ticksQuoted_of_not_mem (h : '`' ∉ s) : TicksQuoted s := by
  rintro a b rfl
  simp at h

theorem TicksQuoted.append (hs : TicksQuoted s) (ht : TicksQuoted t) : TicksQuoted (s ++ t) := by
  intro a b h
  rcases List.append_eq_append_iff.1 h with ⟨front, rfl, rfl⟩ | ⟨back, rfl, hback⟩
  · exact ht front b rfl
  · cases back with
    | nil => exact ht [] b hback.symm
    | cons c back =>
      obtain ⟨rfl, rfl⟩ := List.cons.inj hback
      obtain ⟨d, e, rfl, hd⟩ := hs a back rfl
      exact ⟨d, e ++ t, by simp, hd⟩

/-- A string stands on one line and ends in a quote. -/
theorem ticksQuoted_string (h : '\n' ∉ s) : TicksQuoted ('"' :: s ++ ['"']) := by
  intro a b heq
  have hlast : ∃ d, b = d ++ ['"'] ∧ d <:+ s := by
    rcases List.eq_nil_or_concat b with rfl | ⟨d, c, rfl⟩
    · have hc := congrArg List.getLast? heq
      rw [List.getLast?_concat, List.getLast?_concat] at hc
      cases hc
    · rw [List.concat_eq_append] at heq ⊢
      rw [← List.cons_append, ← List.append_assoc] at heq
      obtain ⟨hinit, hc⟩ := List.append_inj' heq rfl
      obtain rfl : '"' = c := by simpa using hc
      refine ⟨d, rfl, ?_⟩
      cases a with
      | nil => exact absurd (List.cons.inj hinit).1 (by decide)
      | cons x a => exact ⟨a ++ ['`'], by rw [(List.cons.inj hinit).2]; simp⟩
  obtain ⟨d, rfl, hd⟩ := hlast
  exact ⟨d, [], rfl, fun hmem => h (hd.subset hmem)⟩

/-- A backtick with the end of its line in sight stands in no string. -/
theorem not_ticksQuoted (hs : '"' ∉ s) (a t : List Char) :
    ¬TicksQuoted (a ++ '`' :: (s ++ '\n' :: t)) := by
  intro h
  obtain ⟨d, e, heq, hd⟩ := h a (s ++ '\n' :: t) rfl
  rcases List.append_eq_append_iff.1 heq with ⟨front, rfl, hfront⟩ | ⟨back, rfl, hback⟩
  · cases front with
    | nil => exact absurd (List.cons.inj hfront).1 (by decide)
    | cons c front =>
      obtain ⟨rfl, -⟩ := List.cons.inj hfront
      simp at hd
  · cases back with
    | nil => exact absurd (List.cons.inj hback).1 (by decide)
    | cons c back =>
      obtain ⟨rfl, -⟩ := List.cons.inj hback
      simp at hs

/-! ## Words and numbers -/

/-- Whether a character can be part of a word or a number. -/
def isBareChar (c : Char) : Bool := c.isAlphanum || c == '-' || c == '+' || c == '.'

/-- Whether a text has nothing else in it: no quote, no backtick, no bracket and no brace. -/
def isBare (s : List Char) : Bool := s.all isBareChar

theorem isBare_append : isBare (s ++ t) = (isBare s && isBare t) := List.all_append

theorem not_mem_of_isBare (h : isBare s = true) {c : Char} (hc : isBareChar c = false) : c ∉ s := by
  intro hmem
  have hbare := List.all_eq_true.1 h c hmem
  rw [hc] at hbare
  cases hbare

theorem isBare_takeWhile_isDigit (s : List Char) : isBare (s.takeWhile Char.isDigit) = true := by
  rw [isBare, List.all_eq_true]
  intro c hc
  have hdigit := List.all_eq_true.1 List.all_takeWhile c hc
  rw [isBareChar, Char.isAlphanum, hdigit, Bool.or_true]
  rfl

theorem literal?_takes {v : Json} (h : literal? s = some (v, rest)) :
    ∃ word, s = word ++ rest ∧ word ≠ [] ∧ isBare word = true := by
  obtain ⟨⟨word, w⟩, hword, hfound⟩ := List.exists_of_findSome?_eq_some h
  obtain ⟨tail, htail, heq⟩ := Option.map_eq_some_iff.1 hfound
  cases heq
  have hall : (literals.all fun e => !e.1.isEmpty && isBare e.1) = true := by decide
  have hform := List.all_eq_true.1 hall _ hword
  rw [Bool.and_eq_true, Bool.not_eq_true', List.isEmpty_eq_false_iff] at hform
  exact ⟨word, Text.eq_append_of_dropLead? htail, hform.1, hform.2⟩

theorem wholeDigits_takes (s : List Char) :
    s = (wholeDigits s).1 ++ (wholeDigits s).2 ∧ isBare (wholeDigits s).1 = true := by
  unfold wholeDigits
  split
  · exact ⟨rfl, rfl⟩
  · exact ⟨List.takeWhile_append_dropWhile.symm, isBare_takeWhile_isDigit s⟩

theorem fraction?_takes {decimals : List Char} (h : fraction? s = some (decimals, rest)) :
    ∃ taken, s = taken ++ rest ∧ isBare taken = true := by
  unfold fraction? at h
  split at h
  · next c tail =>
    split at h
    · cases h
      refine ⟨'.' :: (c :: tail).takeWhile Char.isDigit, ?_, isBare_takeWhile_isDigit _⟩
      rw [List.cons_append, List.takeWhile_append_dropWhile]
    · cases h
  · cases h

theorem exponent?_takes {e : Int} (h : exponent? s = some (e, rest)) :
    ∃ taken, s = taken ++ rest ∧ isBare taken = true := by
  unfold exponent? at h
  split at h
  · next mark tail =>
    split at h
    · next hmark =>
      have hmark : isBare [mark] = true := by rcases hmark with rfl | rfl <;> rfl
      split at h
      rename_i negative body hsign
      obtain ⟨sign, htail, hsign⟩ : ∃ sign, tail = sign ++ body ∧ isBare sign = true := by
        split at hsign
        · cases hsign
          exact ⟨['-'], rfl, rfl⟩
        · cases hsign
          exact ⟨['+'], rfl, rfl⟩
        · cases hsign
          exact ⟨[], rfl, rfl⟩
      dsimp only at h
      split at h
      · cases h
      · cases h
        refine ⟨[mark] ++ sign ++ body.takeWhile Char.isDigit, ?_, ?_⟩
        · rw [List.append_assoc, List.append_assoc, List.takeWhile_append_dropWhile, ← htail]
          rfl
        · rw [isBare_append, isBare_append, hmark, hsign, isBare_takeWhile_isDigit]
          rfl
    · cases h
  · cases h

theorem number_takes {v : Json} (h : number s = .ok (v, rest)) :
    ∃ taken, s = taken ++ rest ∧ taken ≠ [] ∧ isBare taken = true := by
  unfold number at h
  split at h
  rename_i negative body hsign
  obtain ⟨sign, hs, hsign⟩ : ∃ sign, s = sign ++ body ∧ isBare sign = true := by
    split at hsign
    · cases hsign
      exact ⟨['-'], rfl, rfl⟩
    · cases hsign
      exact ⟨[], rfl, rfl⟩
  obtain ⟨hbody, hwhole⟩ := wholeDigits_takes body
  split at h
  · cases h
  · rename_i whole behind hne hdigits
    rw [hdigits] at hbody hwhole
    split at h
    rename_i decimals tail hasPoint hfraction
    obtain ⟨fraction, hbehind, hpoint⟩ : ∃ fraction, behind = fraction ++ tail ∧
        isBare fraction = true := by
      split at hfraction
      · next hsome =>
        cases hfraction
        exact fraction?_takes hsome
      · cases hfraction
        exact ⟨[], rfl, rfl⟩
    obtain ⟨exponent, htail, hexponent⟩ : ∃ exponent, tail = exponent ++ rest ∧
        isBare exponent = true := by
      split at h
      · rename_i hsome
        cases h
        exact exponent?_takes hsome
      · cases h
        exact ⟨[], rfl, rfl⟩
      · split at h
        · cases h
        · cases h
          exact ⟨[], rfl, rfl⟩
    refine ⟨sign ++ (whole ++ (fraction ++ exponent)), ?_, ?_, ?_⟩
    · simp only [hs, hbody, hbehind, htail, List.append_assoc]
    · intro hnil
      rw [List.append_eq_nil_iff, List.append_eq_nil_iff] at hnil
      exact hne hnil.2.1
    · simp only [isBare_append, hsign, hwhole, hpoint, hexponent, Bool.and_self]

/-! ## Strings -/

theorem hexValue?_line_feed : hexValue? '\n' = none := by decide

theorem not_mem_of_hexFour? {n : Nat} (h : hexFour? s = some n) : '\n' ∉ s.take 4 := by
  unfold hexFour? at h
  split at h
  · rename_i a b c d e tail
    simp only [Option.bind_eq_bind, Option.bind_eq_some_iff] at h
    obtain ⟨a', ha, b', hb, c', hc, d', hd, -⟩ := h
    have hne {x : Char} {m : Nat} (hx : hexValue? x = some m) : '\n' ≠ x := by
      rintro rfl
      rw [hexValue?_line_feed] at hx
      cases hx
    simp [hne ha, hne hb, hne hc, hne hd]
  · cases h

/-- The characters of an escape are on one line. -/
theorem not_mem_of_unicodeEscape {d : Char} {width : Nat} (h : unicodeEscape s = some (d, width)) :
    '\n' ∉ s.take width := by
  unfold unicodeEscape at h
  simp only [Option.bind_eq_bind, Option.bind_eq_some_iff] at h
  obtain ⟨first, hfirst, h⟩ := h
  have hfour := not_mem_of_hexFour? hfirst
  have hsingle (c : Char) (heq : some (c, 4) = some (d, width)) : '\n' ∉ s.take width := by
    obtain ⟨-, rfl⟩ := Prod.mk.inj (Option.some.inj heq)
    exact hfour
  split at h
  · rename_i more _ hdrop
    split at h
    · rename_i second hsecond
      split at h
      · obtain ⟨-, rfl⟩ := Prod.mk.inj (Option.some.inj h)
        have hpair : s.take 10 = s.take 4 ++ '\\' :: 'u' :: more.take 4 := by
          rw [show 10 = 4 + 6 from rfl, List.take_add, hdrop]
          rfl
        have hmore := not_mem_of_hexFour? hsecond
        rw [hpair, List.mem_append, List.mem_cons, List.mem_cons]
        rintro (hin | hslash | hu | hin)
        · exact hfour hin
        · exact absurd hslash (by decide)
        · exact absurd hu (by decide)
        · exact hmore hin
      · exact hsingle _ h
    · exact hsingle _ h
  · exact hsingle _ h

theorem simpleEscape?_line_feed : simpleEscape? '\n' = none := rfl

/-- What a result under a map comes from. -/
theorem exists_ok_of_map {α β : Type} {g : α → β} {b : β} {read : Except Stop (α × List Char)}
    (h : (read.map fun (a, after) => (g a, after)) = .ok (b, rest)) :
    ∃ a, read = .ok (a, rest) := by
  cases read with
  | error e => cases h
  | ok p =>
    cases h
    exact ⟨p.1, rfl⟩

/-- The characters of a string are on one line and end before a quote. -/
theorem stringBody_takes {opening text : List Char} {skip : Nat}
    (h : stringBody opening skip s = .ok (text, after)) (hskip : '\n' ∉ s.take skip) :
    ∃ taken, s = taken ++ '"' :: after ∧ '\n' ∉ taken := by
  have hcons {c : Char} {rest : List Char} (hc : '\n' ≠ c)
      (h : ∃ taken, rest = taken ++ '"' :: after ∧ '\n' ∉ taken) :
      ∃ taken, c :: rest = taken ++ '"' :: after ∧ '\n' ∉ taken := by
    obtain ⟨taken, rfl, htaken⟩ := h
    exact ⟨c :: taken, rfl, List.not_mem_cons_of_ne_of_not_mem hc htaken⟩
  have hline {c : Char} (hc : ¬c.toNat < 0x20) : '\n' ≠ c := by
    rintro rfl
    exact hc (by decide)
  fun_induction stringBody opening skip s generalizing text with
  | case1 => cases h
  | case2 skip c rest ih =>
    rw [List.take_succ_cons] at hskip
    exact hcons (List.ne_of_not_mem_cons hskip) (ih h (List.not_mem_of_not_mem_cons hskip))
  | case3 rest =>
    cases h
    exact ⟨[], rfl, List.not_mem_nil⟩
  | case4 => cases h
  | case5 c rest _ hc _ ih =>
    obtain ⟨inner, h⟩ := exists_ok_of_map h
    exact hcons (hline hc) (ih h List.not_mem_nil)
  | case6 => cases h
  | case7 => cases h
  | case8 c _ hc _ digits d width hescape ih =>
    obtain ⟨inner, h⟩ := exists_ok_of_map h
    refine hcons (hline hc) (ih h ?_)
    rw [List.take_succ_cons]
    exact List.not_mem_cons_of_ne_of_not_mem (by decide) (not_mem_of_unicodeEscape hescape)
  | case9 => cases h
  | case10 c _ hc _ e tail _ d hescape ih =>
    obtain ⟨inner, h⟩ := exists_ok_of_map h
    refine hcons (hline hc) (ih h ?_)
    have he : '\n' ≠ e := by
      rintro rfl
      rw [simpleEscape?_line_feed] at hescape
      cases hescape
    exact List.not_mem_cons_of_ne_of_not_mem he List.not_mem_nil

theorem string_takes {text : String} (h : string ('"' :: s) = .ok (text, rest)) :
    ∃ body, s = body ++ '"' :: rest ∧ '\n' ∉ body := by
  unfold string at h
  cases hbody : stringBody ('"' :: s) 0 s with
  | error e =>
    rw [List.tail_cons, hbody] at h
    cases h
  | ok p =>
    rw [List.tail_cons, hbody] at h
    cases h
    exact stringBody_takes hbody List.not_mem_nil

/-! ## Values -/

/-- The form of the text of a value. -/
inductive IsValueText : List Char → Prop
  | bare {s : List Char} : s ≠ [] → isBare s = true → IsValueText s
  | string {s : List Char} : '\n' ∉ s → IsValueText ('"' :: s ++ ['"'])
  | object {s : List Char} : TicksQuoted s → IsValueText ('\x7b' :: s ++ ['\x7d'])
  | array {s : List Char} : TicksQuoted s → IsValueText ('[' :: s ++ [']'])

theorem TicksQuoted.between (h : TicksQuoted s) {c d : Char} (hc : c ≠ '`') (hd : d ≠ '`') :
    TicksQuoted (c :: s ++ [d]) := by
  have hopen : TicksQuoted [c] := ticksQuoted_of_not_mem (by simp [hc.symm])
  have hclose : TicksQuoted [d] := ticksQuoted_of_not_mem (by simp [hd.symm])
  exact (hopen.append h).append hclose

theorem IsValueText.ticksQuoted (h : IsValueText s) : TicksQuoted s := by
  cases h with
  | bare _ hbare => exact ticksQuoted_of_not_mem (not_mem_of_isBare hbare (by decide))
  | string hline => exact ticksQuoted_string hline
  | object hinner => exact hinner.between (by decide) (by decide)
  | array hinner => exact hinner.between (by decide) (by decide)

/-- A text of blanks alone. -/
def isGapText (s : List Char) : Bool := s.all isGap

theorem not_mem_of_isGapText (h : isGapText s = true) {c : Char} (hc : isGap c = false) : c ∉ s := by
  intro hmem
  have hgap := List.all_eq_true.1 h c hmem
  rw [hc] at hgap
  cases hgap

theorem ticksQuoted_of_isGapText (h : isGapText s = true) : TicksQuoted s :=
  ticksQuoted_of_not_mem (not_mem_of_isGapText h (by decide))

theorem exists_gap (s : List Char) : ∃ gap, s = gap ++ skipGap s ∧ isGapText gap = true :=
  ⟨s.takeWhile isGap, List.takeWhile_append_dropWhile.symm, List.all_takeWhile⟩

/-- The text goes on to the character `c`, with `after` behind it, and what is before `c` has its
backticks in strings. -/
def ClosedBy (c : Char) (after s : List Char) : Prop :=
  ∃ inner, s = inner ++ c :: after ∧ TicksQuoted inner

variable {c d : Char}

theorem ClosedBy.here : ClosedBy c after (c :: after) :=
  ⟨[], rfl, ticksQuoted_of_not_mem List.not_mem_nil⟩

theorem ClosedBy.append (ht : TicksQuoted t) (h : ClosedBy c after s) : ClosedBy c after (t ++ s) := by
  obtain ⟨inner, rfl, hinner⟩ := h
  exact ⟨t ++ inner, (List.append_assoc ..).symm, ht.append hinner⟩

theorem ClosedBy.cons (hd : d ≠ '`') (h : ClosedBy c after s) : ClosedBy c after (d :: s) :=
  h.append (ticksQuoted_of_not_mem (List.not_mem_cons_of_ne_of_not_mem hd.symm List.not_mem_nil))

theorem ClosedBy.of_skipGap (h : ClosedBy c after (skipGap s)) : ClosedBy c after s := by
  obtain ⟨gap, hs, hgap⟩ := exists_gap s
  rw [hs]
  exact h.append (ticksQuoted_of_isGapText hgap)

/-- What a value takes of the text it is read from. -/
def ValueTakes (fuel : Nat) : Prop := ∀ {depth s v rest},
  value fuel depth s = .ok (v, rest) → ∃ text, s = text ++ rest ∧ IsValueText text

/-- What the fields of an object take. -/
def MembersTake (fuel : Nat) : Prop := ∀ {depth fields s found after},
  members fuel depth fields s = .ok (found, after) → ClosedBy '\x7d' after s

/-- What the items of an array take. -/
def ElementsTake (fuel : Nat) : Prop := ∀ {depth s found after},
  elements fuel depth s = .ok (found, after) → ClosedBy ']' after s

/-- What the two halves of a result come from. -/
theorem exists_ok_of_bind {α β : Type} {read : Except Stop α} {f : α → Except Stop β} {b : β}
    (h : read >>= f = .ok b) : ∃ a, read = .ok a ∧ f a = .ok b := by
  cases read with
  | error e => cases h
  | ok a => exact ⟨a, rfl, h⟩

theorem valueTakes_succ {fuel : Nat} (hmembers : MembersTake fuel) (helements : ElementsTake fuel) :
    ValueTakes (fuel + 1) := by
  intro depth s v rest h
  unfold value at h
  split at h
  · cases h
  · obtain ⟨text, h⟩ := exists_ok_of_map h
    obtain ⟨body, rfl, hbody⟩ := string_takes h
    exact ⟨'"' :: body ++ ['"'], by simp, .string hbody⟩
  · cases h
  · rename_i inside depth
    have hinner : ClosedBy '\x7d' rest (skipGap inside) := by
      split at h
      · rename_i hempty
        cases h
        rw [hempty]
        exact .here
      · obtain ⟨found, h⟩ := exists_ok_of_map h
        exact hmembers h
    obtain ⟨inner, rfl, hticks⟩ := hinner.of_skipGap
    exact ⟨'\x7b' :: inner ++ ['\x7d'], by simp, .object hticks⟩
  · cases h
  · rename_i inside depth
    have hinner : ClosedBy ']' rest (skipGap inside) := by
      split at h
      · rename_i hempty
        cases h
        rw [hempty]
        exact .here
      · obtain ⟨found, h⟩ := exists_ok_of_map h
        exact helements h
    obtain ⟨inner, rfl, hticks⟩ := hinner.of_skipGap
    exact ⟨'[' :: inner ++ [']'], by simp, .array hticks⟩
  · split at h
    · rename_i hword
      cases h
      obtain ⟨word, hs, hne, hbare⟩ := literal?_takes hword
      exact ⟨word, hs, .bare hne hbare⟩
    · obtain ⟨digits, hs, hne, hbare⟩ := number_takes h
      exact ⟨digits, hs, .bare hne hbare⟩

theorem membersTake_succ {fuel : Nat} (hvalue : ValueTakes fuel) (hmembers : MembersTake fuel) :
    MembersTake (fuel + 1) := by
  intro depth fields s found after h
  unfold members at h
  split at h
  · rename_i inside
    obtain ⟨⟨key, rest⟩, hkey, hfield⟩ := exists_ok_of_bind h
    obtain ⟨body, hinside, hbody⟩ := string_takes hkey
    dsimp only at hfield
    have hrest : ClosedBy '\x7d' after (skipGap rest) := by
      split at hfield
      · rename_i tail hcolon
        rw [hcolon]
        obtain ⟨⟨v, behind⟩, hv, hnext⟩ := exists_ok_of_bind hfield
        obtain ⟨text, htail, htext⟩ := hvalue hv
        dsimp only at hnext
        have hbehind : ClosedBy '\x7d' after (skipGap behind) := by
          split at hnext
          · rename_i hempty
            cases hnext
            rw [hempty]
            exact .here
          · rename_i more hcomma
            rw [hcomma]
            exact (hmembers hnext).of_skipGap.cons (by decide)
          · cases hnext
        have hfrom : ClosedBy '\x7d' after (skipGap tail) := by
          rw [htail]
          exact hbehind.of_skipGap.append htext.ticksQuoted
        exact hfrom.of_skipGap.cons (by decide)
      · cases hfield
    have hquoted : ClosedBy '\x7d' after (('"' :: body ++ ['"']) ++ rest) :=
      hrest.of_skipGap.append (ticksQuoted_string hbody)
    rw [hinside]
    simpa using hquoted
  · cases h

theorem elementsTake_succ {fuel : Nat} (hvalue : ValueTakes fuel) (helements : ElementsTake fuel) :
    ElementsTake (fuel + 1) := by
  intro depth s found after h
  unfold elements at h
  obtain ⟨⟨v, rest⟩, hv, hnext⟩ := exists_ok_of_bind h
  obtain ⟨text, rfl, htext⟩ := hvalue hv
  dsimp only at hnext
  have hrest : ClosedBy ']' after (skipGap rest) := by
    split at hnext
    · rename_i hempty
      cases hnext
      rw [hempty]
      exact .here
    · rename_i more hcomma
      rw [hcomma]
      obtain ⟨⟨items, behind⟩, hitems, heq⟩ := exists_ok_of_bind hnext
      cases heq
      exact (helements hitems).of_skipGap.cons (by decide)
    · cases hnext
  exact hrest.of_skipGap.append htext.ticksQuoted

/-- **What the three readers take**, by induction on the fuel that they share. -/
theorem readers_take (fuel : Nat) : ValueTakes fuel ∧ MembersTake fuel ∧ ElementsTake fuel := by
  induction fuel with
  | zero =>
    refine ⟨?_, ?_, ?_⟩
    · intro depth s v rest h
      unfold value at h
      cases h
    · intro depth fields s found after h
      unfold members at h
      cases h
    · intro depth s found after h
      unfold elements at h
      cases h
  | succ fuel ih =>
    obtain ⟨hvalue, hmembers, helements⟩ := ih
    exact ⟨valueTakes_succ hmembers helements, membersTake_succ hvalue hmembers,
      elementsTake_succ hvalue helements⟩

theorem read_eq_ok_iff {v : Json} : read s = .ok v ↔ readWhole s = .ok v := by
  unfold read
  cases readWhole s with
  | ok w => simp
  | error e => cases e <;> simp

/-- **A text that is read is the text of one value, with blanks before and after it.** -/
theorem exists_text_of_read {v : Json} (h : read s = .ok v) :
    ∃ front text back, s = front ++ text ++ back ∧ isGapText front = true ∧ isGapText back = true ∧
      IsValueText text := by
  rw [read_eq_ok_iff] at h
  unfold readWhole at h
  split at h
  · cases h
  · obtain ⟨⟨w, rest⟩, hvalue, hnext⟩ := exists_ok_of_bind h
    obtain ⟨text, htake, htext⟩ := (readers_take _).1 hvalue
    obtain ⟨front, hs, hfront⟩ := exists_gap s
    obtain ⟨back, hrest, hback⟩ := exists_gap rest
    dsimp only at hnext
    split at hnext
    · rename_i hend
      rw [hend, List.append_nil] at hrest
      refine ⟨front, text, back, ?_, hfront, hback, htext⟩
      rw [List.append_assoc, ← hrest, ← htake, ← hs]
    · cases hnext

end Wireframe.Json
