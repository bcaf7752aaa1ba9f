import Mathlib.Data.List.TakeWhile
import Wireframe.Proofs.Json.Reader
import Wireframe.Proofs.Text.Search
import Wireframe.Reply.Value

/-!
# Which value is found in a reply

Texts are tried in order. What is found is the value of the first text that is not malformed, if it is
read at all; when every text is malformed, nothing is found.

* `findValue_of_malformed` — what is told of a reply in which every text is malformed.
* `read_of_findValue` — where a value that is found comes from.
-/

set_option autoImplicit false

namespace Wireframe.Reply

open Wireframe.Text

/-! ## Texts that are tried -/

theorem fencedTexts_of_not_mem {text : List Char} (h : '`' ∉ text) : fencedTexts text = [] := by
  unfold fencedTexts
  cases text.length with
  | zero => rfl
  | succ n =>
    have hcut : cutAt? ['`', '`', '`'] text = none := cutAt?_eq_none h _
    rw [fencedWithin, nextFenced?, hcut]
    rfl

theorem braceSpan?_of_not_mem {text : List Char} (h : '\x7b' ∉ text) : braceSpan? text = none := by
  have hnone : text.dropWhile (· != '\x7b') = [] := by
    rw [List.dropWhile_eq_nil_iff]
    intro c hc
    simpa using ne_of_mem_of_not_mem hc h
  rw [braceSpan?, hnone]

/-- A text without fences and braces is tried as a whole only. -/
theorem candidates_of_not_mem {text : List Char} (hne : text ≠ []) (htick : '`' ∉ text)
    (hbrace : '\x7b' ∉ text) : candidates text = [text] := by
  rw [candidates, fencedTexts_of_not_mem htick, braceSpan?_of_not_mem hbrace,
    if_neg (by rwa [List.isEmpty_iff])]
  rfl

/-! ## Trying texts -/

def Malformed (text : List Char) : Prop := ∃ f, Json.read text = .error (.malformed f)

variable {fault : Option Json.ReadFault} {fallback : Option (List Char)} {text : List Char}
  {texts before : List (List Char)} {found : FoundValue} {v : Json}

theorem tryTexts_cons_of_malformed {f : Json.ReadFault} (h : Json.read text = .error (.malformed f))
    (rest : List (List Char)) :
    tryTexts fault fallback (text :: rest) = tryTexts (some f) fallback rest := by
  rw [tryTexts, h]

/-- When every text is malformed, nothing is found, and the last fault is told. -/
theorem tryTexts_concat_of_malformed (hbefore : ∀ t ∈ before, Malformed t) {f : Json.ReadFault}
    (h : Json.read text = .error (.malformed f)) :
    tryTexts fault fallback (before ++ [text]) = .ok ⟨none, fallback, some f⟩ := by
  induction before generalizing fault with
  | nil => exact tryTexts_cons_of_malformed h []
  | cons t before ih =>
    obtain ⟨⟨g, hg⟩, hrest⟩ := List.forall_mem_cons.1 hbefore
    rw [List.cons_append, tryTexts_cons_of_malformed hg, ih hrest]

theorem tryTexts_of_malformed (h : ∀ t ∈ texts, Malformed t) :
    ∃ last, tryTexts fault fallback texts = .ok ⟨none, fallback, last⟩ := by
  rcases List.eq_nil_or_concat texts with rfl | ⟨before, text, rfl⟩
  · exact ⟨fault, rfl⟩
  · rw [List.concat_eq_append] at h ⊢
    obtain ⟨hbefore, hlast⟩ := List.forall_mem_append.1 h
    obtain ⟨f, hf⟩ := hlast text List.mem_cons_self
    exact ⟨some f, tryTexts_concat_of_malformed hbefore hf⟩

/-- A value that is found was read from the first text that is not malformed. -/
theorem read_of_tryTexts (h : tryTexts fault fallback texts = .ok found) (hv : found.value = some v) :
    ∃ before text after, texts = before ++ text :: after ∧ (∀ t ∈ before, Malformed t) ∧
      Json.read text = .ok v ∧ found.candidate = some text := by
  induction texts generalizing fault with
  | nil =>
    cases h
    cases hv
  | cons t texts ih =>
    cases ht : Json.read t with
    | ok w =>
      rw [tryTexts, ht] at h
      cases h
      cases hv
      exact ⟨[], t, texts, rfl, nofun, ht, rfl⟩
    | error e =>
      cases e with
      | excess e => rw [tryTexts, ht] at h; cases h
      | malformed f =>
        rw [tryTexts_cons_of_malformed ht] at h
        obtain ⟨before, text, after, rfl, hbefore, hread⟩ := ih h
        exact ⟨t :: before, text, after, rfl, List.forall_mem_cons.2 ⟨⟨f, ht⟩, hbefore⟩, hread⟩

theorem findValue_eq (reply : List Char) :
    findValue reply = tryTexts none (braceSpan? (trim reply)) (candidates (trim reply)) := rfl

/-- A reply without a text that is JSON: nothing is found in it, and what is told is the text from the
first opening to the last closing brace and why that text is malformed. -/
theorem findValue_of_malformed {reply : List Char} (h : ∀ t ∈ candidates (trim reply), Malformed t) :
    ∃ last, findValue reply = .ok ⟨none, braceSpan? (trim reply), last⟩ ∧
      ∀ span, braceSpan? (trim reply) = some span →
        ∃ f, Json.read span = .error (.malformed f) ∧ last = some f := by
  rw [findValue_eq]
  cases hspan : braceSpan? (trim reply) with
  | none =>
    obtain ⟨last, hlast⟩ := tryTexts_of_malformed h
    exact ⟨last, hlast, nofun⟩
  | some span =>
    unfold candidates at h ⊢
    rw [hspan] at h ⊢
    obtain ⟨hbefore, hlast⟩ := List.forall_mem_append.1 h
    obtain ⟨f, hf⟩ := hlast span List.mem_cons_self
    refine ⟨some f, tryTexts_concat_of_malformed hbefore hf, fun other hother => ?_⟩
    cases hother
    exact ⟨f, hf, rfl⟩

/-- A reply that begins with an integer of too many digits is given up at once. -/
theorem findValue_of_digits {reply digits rest : List Char} {c : Char}
    (hreply : trim reply = c :: digits ++ rest) (hzero : c ≠ '0')
    (hall : ∀ d ∈ c :: digits, d.isDigit = true) (hrest : Json.EndsNumber rest)
    (hmany : Json.maxDigits < (c :: digits).length) :
    findValue reply = .error (.digits (c :: digits).length) := by
  have hread := Json.read_of_digits hzero hall hrest hmany
  have hcandidates : candidates (trim reply) = (c :: digits ++ rest) ::
      (fencedTexts (trim reply) ++ (braceSpan? (trim reply)).toList) := by
    unfold candidates
    rw [hreply]
    rfl
  rw [findValue_eq, hcandidates, tryTexts, hread]

/-- The text that is told beside a value is the one that it was read from. -/
theorem read_of_findValue {reply : List Char} (h : findValue reply = .ok found)
    (hv : found.value = some v) :
    ∃ before text after, candidates (trim reply) = before ++ text :: after ∧
      (∀ t ∈ before, Malformed t) ∧ Json.read text = .ok v ∧ found.candidate = some text :=
  read_of_tryTexts (findValue_eq reply ▸ h) hv

end Wireframe.Reply
