import Wireframe.Json.Basic

/-!
# Objects and arrays

* `IsObject`, `IsArray` — objects and arrays that meet a condition.
* `Fields.get?_set_self`, `Fields.get?_set_of_ne` — the value of a key after a key has been set.
* `Fields.get?_erase_self`, `Fields.get?_erase_of_ne` — the same after one has been removed.
-/

set_option autoImplicit false

namespace Wireframe

namespace Json

/-- An object whose fields meet a condition. -/
def IsObject (p : Fields → Prop) (v : Json) : Prop := ∃ fields, v = .obj fields ∧ p fields

/-- An array whose items meet a condition. -/
def IsArray (p : List Json → Prop) (v : Json) : Prop := ∃ items, v = .arr items ∧ p items

theorem isObject_obj {p : Fields → Prop} {fields : Fields} :
    IsObject p (.obj fields) ↔ p fields := by
  constructor
  · rintro ⟨_, h, hp⟩
    cases h
    exact hp
  · exact fun hp => ⟨fields, rfl, hp⟩

theorem isArray_arr {p : List Json → Prop} {items : List Json} :
    IsArray p (.arr items) ↔ p items := by
  constructor
  · rintro ⟨_, h, hp⟩
    cases h
    exact hp
  · exact fun hp => ⟨items, rfl, hp⟩

theorem IsObject.and {p q : Fields → Prop} {v : Json} (hp : v.IsObject p) (hq : v.IsObject q) :
    v.IsObject fun fields => p fields ∧ q fields := by
  obtain ⟨fields, rfl, hp⟩ := hp
  exact ⟨fields, rfl, hp, isObject_obj.1 hq⟩

theorem IsArray.and {p q : List Json → Prop} {v : Json} (hp : v.IsArray p) (hq : v.IsArray q) :
    v.IsArray fun items => p items ∧ q items := by
  obtain ⟨items, rfl, hp⟩ := hp
  exact ⟨items, rfl, hp, isArray_arr.1 hq⟩

end Json

namespace Fields

variable {fields : Fields} {key : String} {v : Json}

theorem get?_cons (k : String) (w : Json) (fields : Fields) (key : String) :
    Fields.get? ((k, w) :: fields) key = if key = k then some w else fields.get? key := by
  by_cases h : key = k
  · subst h
    simp [get?]
  · have : (key == k) = false := by simpa using h
    simp [get?, List.lookup_cons, this, h]

theorem get_of_get? (h : fields.get? key = some v) : fields.get key = v := by
  unfold get
  rw [h]; rfl

theorem get_of_get?_none (h : fields.get? key = none) : fields.get key = .null := by
  unfold get
  rw [h]; rfl

/-- A value other than null is there. -/
theorem get?_of_get (h : fields.get key = v) (hv : v ≠ .null) : fields.get? key = some v := by
  unfold get at h
  cases hk : fields.get? key with
  | none => rw [hk] at h; exact absurd h.symm hv
  | some w => rw [hk] at h; exact congrArg some h

theorem has_eq_false_iff : fields.has key = false ↔ key ∉ fields.keys := by
  unfold has keys
  rw [List.any_eq_false, List.mem_map]
  simp only [beq_iff_eq, not_exists, not_and]

/-- A key that is not there is set at the end. -/
theorem set_of_not_mem (h : key ∉ fields.keys) (v : Json) :
    fields.set key v = fields ++ [(key, v)] := by
  induction fields with
  | nil => rfl
  | cons e fields ih =>
    obtain ⟨k, w⟩ := e
    rw [keys, List.map_cons, List.mem_cons, not_or] at h
    rw [set, if_neg (Ne.symm h.1), ih h.2, List.cons_append]

theorem get?_set_self (fields : Fields) (key : String) (v : Json) :
    (fields.set key v).get? key = some v := by
  induction fields with
  | nil => rw [set, get?_cons, if_pos rfl]
  | cons p rest ih =>
    obtain ⟨k, w⟩ := p
    unfold set
    split
    · rename_i hk
      rw [get?_cons, if_pos hk.symm]
    · rename_i hk
      rw [get?_cons, if_neg fun h => hk h.symm, ih]

theorem get?_set_of_ne (fields : Fields) (v : Json) {key other : String} (h : other ≠ key) :
    (fields.set key v).get? other = fields.get? other := by
  induction fields with
  | nil => rw [set, get?_cons, if_neg h]
  | cons p rest ih =>
    obtain ⟨k, w⟩ := p
    unfold set
    split
    · rename_i hk
      subst hk
      rw [get?_cons, get?_cons, if_neg h, if_neg h]
    · rw [get?_cons, get?_cons, ih]

theorem get?_erase_self (fields : Fields) (key : String) : (fields.erase key).get? key = none := by
  unfold erase
  induction fields with
  | nil => rfl
  | cons p rest ih =>
    obtain ⟨k, w⟩ := p
    by_cases hk : k = key
    · simpa [hk] using ih
    · have : key ≠ k := fun h => hk h.symm
      simpa [hk, get?_cons, this] using ih

theorem get?_erase_of_ne (fields : Fields) {key other : String} (h : other ≠ key) :
    (fields.erase key).get? other = fields.get? other := by
  unfold erase
  induction fields with
  | nil => rfl
  | cons p rest ih =>
    obtain ⟨k, w⟩ := p
    rw [get?_cons]
    by_cases hk : k = key
    · have : other ≠ k := fun e => h (e.trans hk)
      simpa [hk, this, h] using ih
    · by_cases ho : other = k <;> simp [hk, get?_cons, ho, ← ih]

end Fields

end Wireframe
