import Mathlib.Data.List.Nodup
import Wireframe.Json.Basic

/-!
# Texts and fields in order

Sorting forgets the order in which things came. Texts without repetition, and fields under distinct
keys, are sorted into one list only.

* `pairwise_sortedDistinct`, `mem_sortedDistinct` — `sortedDistinct` lists the members of a list in
  increasing order.
* `eq_of_ascending` — two such listings of the same members are equal.
* `mergeSort_fields` — fields under distinct keys are sorted alike, whatever order they come in.
-/

set_option autoImplicit false

namespace Wireframe

variable {α : Type} {texts : List String}

/-! ## The order of texts -/

theorem textLE_iff {a b : String} : textLE a b = true ↔ a ≤ b := by
  rw [textLE, Bool.not_eq_true', decide_eq_false_iff_not, String.not_lt]

theorem textLE_trans (a b c : String) (hab : textLE a b = true) (hbc : textLE b c = true) :
    textLE a c = true :=
  textLE_iff.2 (String.le_trans (textLE_iff.1 hab) (textLE_iff.1 hbc))

theorem textLE_total (a b : String) : (textLE a b || textLE b a) = true := by
  rw [Bool.or_eq_true, textLE_iff, textLE_iff]
  exact String.le_total a b

/-! ## Listings -/

theorem nodup_eraseDups : ∀ texts : List String, texts.eraseDups.Nodup
  | [] => List.nodup_nil
  | s :: rest => by
    rw [List.eraseDups_cons, List.nodup_cons]
    refine ⟨fun hmem => ?_, nodup_eraseDups _⟩
    have hkept := (List.mem_filter.1 (List.mem_eraseDups.1 hmem)).2
    simp at hkept
termination_by texts => texts.length
decreasing_by exact Nat.lt_succ_of_le (List.length_filter_le _ _)

theorem mem_sortedDistinct {s : String} : s ∈ sortedDistinct texts ↔ s ∈ texts := by
  rw [sortedDistinct, sortTexts, List.mem_mergeSort, List.mem_eraseDups]

theorem sortedDistinct_eq_nil_iff : sortedDistinct texts = [] ↔ texts = [] := by
  simp only [List.eq_nil_iff_forall_not_mem, mem_sortedDistinct]

theorem pairwise_sortedDistinct (texts : List String) :
    (sortedDistinct texts).Pairwise (· < ·) := by
  have hordered : (sortedDistinct texts).Pairwise fun a b => textLE a b = true :=
    List.pairwise_mergeSort textLE_trans textLE_total _
  have hdistinct : (sortedDistinct texts).Nodup :=
    (List.mergeSort_perm _ _).nodup_iff.2 (nodup_eraseDups texts)
  refine (hordered.and hdistinct).imp fun {a b} h => ?_
  rw [← String.not_le]
  exact fun hle => h.2 (String.le_antisymm (textLE_iff.1 h.1) hle)

/-- Texts in increasing order are determined by which texts they are. -/
theorem eq_of_ascending {texts' : List String} (h : texts.Pairwise (· < ·))
    (h' : texts'.Pairwise (· < ·)) (hmem : ∀ s, s ∈ texts ↔ s ∈ texts') : texts = texts' := by
  have hdistinct {l : List String} (hl : l.Pairwise (· < ·)) : l.Nodup := by
    refine hl.imp fun {a b} hlt heq => ?_
    rw [heq] at hlt
    exact String.lt_irrefl b hlt
  have hperm := (List.perm_ext_iff_of_nodup (hdistinct h) (hdistinct h')).2 hmem
  refine hperm.eq_of_pairwise ?_ h h'
  intro a b _ _ hab hba
  exact absurd (String.lt_trans hab hba) (String.lt_irrefl a)

/-! ## Fields -/

/-- Fields under distinct keys are sorted alike, whatever order they come in. -/
theorem mergeSort_fields {fields fields' : List (String × α)} (hkeys : (fields.map (·.1)).Nodup)
    (h : fields.Perm fields') :
    (fields.mergeSort fun a b => textLE a.1 b.1) =
      fields'.mergeSort fun a b => textLE a.1 b.1 := by
  have hordered (l : List (String × α)) :
      (l.mergeSort fun a b => textLE a.1 b.1).Pairwise fun a b => textLE a.1 b.1 = true := by
    refine List.pairwise_mergeSort ?_ ?_ l
    · exact fun a b c => textLE_trans a.1 b.1 c.1
    · exact fun a b => textLE_total a.1 b.1
  have hperm := (List.mergeSort_perm fields fun a b => textLE a.1 b.1).trans
    (h.trans (List.mergeSort_perm fields' fun a b => textLE a.1 b.1).symm)
  refine hperm.eq_of_pairwise ?_ (hordered fields) (hordered fields')
  intro a b ha hb hab hba
  exact List.inj_on_of_nodup_map hkeys (List.mem_mergeSort.1 ha)
    (h.mem_iff.2 (List.mem_mergeSort.1 hb))
    (String.le_antisymm (textLE_iff.1 hab) (textLE_iff.1 hba))

/-- Under distinct keys, a key has the value that it stands with. -/
theorem lookup_eq_some_iff_mem {fields : List (String × α)} (hkeys : (fields.map (·.1)).Nodup)
    {key : String} {v : α} : fields.lookup key = some v ↔ (key, v) ∈ fields := by
  constructor
  · intro h
    obtain ⟨before, after, rfl, -⟩ := List.lookup_eq_some_iff.1 h
    exact List.mem_append_right before List.mem_cons_self
  · intro h
    obtain ⟨before, after, rfl⟩ := List.append_of_mem h
    refine List.lookup_eq_some_iff.2 ⟨before, after, rfl, fun e he => bne_iff_ne.2 ?_⟩
    rw [List.map_append, List.nodup_append] at hkeys
    exact (hkeys.2.2 e.1 (List.mem_map_of_mem he) key List.mem_cons_self).symm

/-- The value of a key does not depend on the order of fields under distinct keys. -/
theorem lookup_of_perm {fields fields' : List (String × α)} (hkeys : (fields.map (·.1)).Nodup)
    (h : fields.Perm fields') (key : String) : fields.lookup key = fields'.lookup key := by
  have hkeys' := (h.map (·.1)).nodup_iff.1 hkeys
  ext v
  rw [lookup_eq_some_iff_mem hkeys, lookup_eq_some_iff_mem hkeys', h.mem_iff]

end Wireframe
