/-!
# Searching in a text

* `dropLead?` — the rest of a text after what it starts with.
* `cutAt?` — the text before the first occurrence of a mark, and after it.
* `occursIn` — whether a text holds another.

`eq_append_of_dropLead?` and `eq_append_of_cutAt?` say that nothing is lost.
-/

namespace Wireframe.Text

/-- What follows `lead` at the start of a text. -/
def dropLead? : List Char → List Char → Option (List Char)
  | [], rest => some rest
  | _ :: _, [] => none
  | a :: lead, c :: rest => if a = c then dropLead? lead rest else none

/-- The text before the first occurrence of `mark` and the text after it. -/
def cutAt? (mark : List Char) : List Char → Option (List Char × List Char)
  | [] => if mark = [] then some ([], []) else none
  | c :: rest =>
    match dropLead? mark (c :: rest) with
    | some after => some ([], after)
    | none => (cutAt? mark rest).map fun (before, after) => (c :: before, after)

/-- Whether `mark` occurs in a text. -/
def occursIn (mark : List Char) : List Char → Bool
  | [] => mark.isEmpty
  | c :: rest => (dropLead? mark (c :: rest)).isSome || occursIn mark rest

/-- The remainder of a text when the lead is there, the text itself when it is not. -/
def withoutLead (lead s : List Char) : List Char := (dropLead? lead s).getD s

/-- The text before `tail` when the text ends with it. -/
def dropTail? (tail s : List Char) : Option (List Char) :=
  (dropLead? tail.reverse s.reverse).map List.reverse

theorem dropLead?_append (lead rest : List Char) : dropLead? lead (lead ++ rest) = some rest := by
  induction lead with
  | nil => rfl
  | cons a lead ih => simp [dropLead?, ih]

theorem eq_append_of_dropLead? {lead s rest : List Char} (h : dropLead? lead s = some rest) :
    s = lead ++ rest := by
  induction lead generalizing s with
  | nil => simpa [dropLead?] using h
  | cons a lead ih =>
    cases s with
    | nil => simp [dropLead?] at h
    | cons c s =>
      simp only [dropLead?] at h
      split at h
      · next hc => simp [hc, ih h]
      · cases h

/-- Cutting a text at a mark loses nothing. -/
theorem eq_append_of_cutAt? {mark s before after : List Char}
    (h : cutAt? mark s = some (before, after)) : s = before ++ mark ++ after := by
  induction s generalizing before with
  | nil =>
    simp only [cutAt?] at h
    split at h
    · next hm =>
      cases h
      rw [hm]
      rfl
    · cases h
  | cons c rest ih =>
    simp only [cutAt?] at h
    split at h
    · next found hd =>
      cases h
      rw [eq_append_of_dropLead? hd]
      rfl
    · obtain ⟨⟨inner, tail⟩, hcut, heq⟩ := Option.map_eq_some_iff.1 h
      cases heq
      rw [ih hcut]
      rfl

end Wireframe.Text
