import Wireframe.Json.Basic

/-!
# Values with a text in strict JSON

A value is strict when no number in it is infinite or not a number. Texts, integers and whatever is made
of strict values are strict, and looking fields up, setting and removing them lets nothing else in.

* `Json.isStrict_arr_iff`, `Json.isStrict_obj_iff` — a collection by its parts.
* `Fields.AreStrict` — fields with strict values; `set`, `update` and `erase` preserve it.
-/

set_option autoImplicit false

namespace Wireframe

namespace Json

@[simp] theorem isStrict_null : isStrict .null = true := rfl

@[simp] theorem isStrict_bool (b : Bool) : isStrict (.bool b) = true := rfl

@[simp] theorem isStrict_int (n : Int) : isStrict (.int n) = true := rfl

@[simp] theorem isStrict_str (s : String) : isStrict (.str s) = true := rfl

@[simp] theorem isStrict_ofNat (n : Nat) : isStrict (.ofNat n) = true := isStrict_int n

@[simp] theorem isStrict_arr_iff {items : List Json} :
    isStrict (.arr items) = true ↔ ∀ v ∈ items, v.isStrict = true := by
  rw [isStrict]
  induction items with
  | nil => simp [areStrict]
  | cons v rest ih => rw [areStrict, Bool.and_eq_true, ih, List.forall_mem_cons]

@[simp] theorem isStrict_obj_iff {fields : Fields} :
    isStrict (.obj fields) = true ↔ ∀ e ∈ fields, e.2.isStrict = true := by
  rw [isStrict]
  induction fields with
  | nil => simp [haveStrictValues]
  | cons e rest ih =>
    obtain ⟨key, v⟩ := e
    rw [haveStrictValues, Bool.and_eq_true, ih, List.forall_mem_cons]

@[simp] theorem isStrict_ofTexts (texts : List String) : isStrict (.ofTexts texts) = true :=
  isStrict_arr_iff.2 (List.forall_mem_map.2 fun s _ => isStrict_str s)

@[simp] theorem isStrict_ofText? (s? : Option String) : isStrict (.ofText? s?) = true := by
  cases s? with
  | none => exact isStrict_null
  | some s => exact isStrict_str s

theorem isStrict_orElse {v fallback : Json} (hv : v.isStrict = true)
    (hfallback : fallback.isStrict = true) : (v.orElse fallback).isStrict = true := by
  unfold orElse
  split
  · exact hv
  · exact hfallback

end Json

namespace Fields

variable {fields other : Fields} {key : String} {v : Json}

/-- Fields whose values are strict. -/
def AreStrict (fields : Fields) : Prop := ∀ e ∈ fields, e.2.isStrict = true

theorem AreStrict.isStrict_get (h : fields.AreStrict) (key : String) :
    (fields.get key).isStrict = true := by
  unfold get get?
  cases hfound : fields.lookup key with
  | none => exact Json.isStrict_null
  | some v =>
    obtain ⟨before, after, rfl, -⟩ := List.lookup_eq_some_iff.1 hfound
    exact h (key, v) (List.mem_append_right before List.mem_cons_self)

theorem AreStrict.append (h : fields.AreStrict) (hother : other.AreStrict) :
    AreStrict (fields ++ other) := List.forall_mem_append.2 ⟨h, hother⟩

theorem AreStrict.set (h : fields.AreStrict) (hv : v.isStrict = true) : (fields.set key v).AreStrict := by
  induction fields with
  | nil => exact List.forall_mem_singleton.2 hv
  | cons e rest ih =>
    obtain ⟨k, w⟩ := e
    obtain ⟨hfirst, hrest⟩ := List.forall_mem_cons.1 h
    unfold Fields.set
    split
    · exact List.forall_mem_cons.2 ⟨hv, hrest⟩
    · exact List.forall_mem_cons.2 ⟨hfirst, ih hrest⟩

theorem AreStrict.update (h : fields.AreStrict) (hother : other.AreStrict) :
    (fields.update other).AreStrict := by
  unfold Fields.update
  induction other generalizing fields with
  | nil => exact h
  | cons e rest ih =>
    obtain ⟨hfirst, hrest⟩ := List.forall_mem_cons.1 hother
    exact ih (h.set hfirst) hrest

theorem AreStrict.erase (h : fields.AreStrict) (key : String) : (fields.erase key).AreStrict :=
  fun e he => h e (List.mem_filter.1 he).1

end Fields

end Wireframe
