import Mathlib.Data.List.Forall2
import Wireframe.Proofs.Json.Fields
import Wireframe.Schema.Decode

/-!
# Readers that succeed

What a combined reader needs in order to succeed, from what its parts need.

* `required_eq_ok`, `optional_eq_ok` — a field is read under the first of its names, whatever stands
  under the others.
* `listOf_eq_ok` — an array is read item by item, in order.
-/

set_option autoImplicit false

namespace Wireframe

namespace Schema

variable {α β : Type}

theorem both_ok (x : α) (y : β) : both (.ok x) (.ok y) = .ok (x, y) := rfl

theorem under_eq_ok_iff {step : PathStep} {r : Checked α} {x : α} :
    under step r = .ok x ↔ r = .ok x := by
  cases r <;> simp [under, Except.mapError]

theorem forModel_eq_ok {model : String} {r : Checked α} {x : α} (h : r = .ok x) :
    forModel model r = .ok x := by
  rw [h]; rfl

theorem lookupAny_head {fields : Fields} {name : String} {others : List String} {v : Json}
    (h : fields.get? name = some v) : lookupAny fields (name :: others) = some (name, v) := by
  simp [lookupAny, h]

/-- The first name decides; what stands under the others is not looked at. -/
theorem required_eq_ok {fields : Fields} {name : String} {others : List String} {v : Json}
    {read : Reader α} {x : α} (h : fields.get? name = some v) (hr : read v = .ok x) :
    required fields (name :: others) read = .ok x := by
  unfold required
  rw [lookupAny_head h]
  exact under_eq_ok_iff.2 hr

theorem optional_eq_ok {fields : Fields} {name : String} {others : List String} {v : Json}
    {default x : α} {read : Reader α} (h : fields.get? name = some v) (hr : read v = .ok x) :
    optional fields (name :: others) default read = .ok x := by
  unfold optional
  rw [lookupAny_head h]
  exact under_eq_ok_iff.2 hr

theorem optional_absent {fields : Fields} {name : String} {default : α} {read : Reader α}
    (h : fields.get? name = none) : optional fields [name] default read = .ok default := by
  simp [optional, lookupAny, h]

/-- A field whose reader takes null for the default may be absent or null alike. -/
theorem optional_get {fields : Fields} {name : String} {default x : α} {read : Reader α}
    (hnull : read .null = .ok default) (h : read (fields.get name) = .ok x) :
    optional fields [name] default read = .ok x := by
  cases hg : fields.get? name with
  | none =>
    rw [Fields.get_of_get?_none hg, hnull] at h
    rw [optional_absent hg, h]
  | some v =>
    rw [Fields.get_of_get? hg] at h
    exact optional_eq_ok hg h

theorem oneOf_eq_ok {options : List (String × α)} {s : String} {x : α}
    (h : options.lookup s = some x) : oneOf options (.str s) = .ok x := by
  simp [oneOf, h]

theorem text_str (s : String) : text (.str s) = .ok s := rfl

/-- A text, or null for none, is read as the optional text that it is. -/
theorem nullable_text (s? : Option String) : nullable text (.ofText? s?) = .ok s? := by
  cases s? <;> rfl

theorem itemsFrom_eq_ok {read : Reader α} {items : List Json} {xs : List α}
    (h : List.Forall₂ (fun v x => read v = .ok x) items xs) (i : Nat) :
    itemsFrom read i items = .ok xs := by
  induction h generalizing i with
  | nil => rfl
  | cons hv _ ih =>
    unfold itemsFrom
    rw [hv, ih (i + 1)]
    rfl

theorem listOf_eq_ok {kind : IssueKind} {read : Reader α} {items : List Json} {xs : List α}
    (h : List.Forall₂ (fun v x => read v = .ok x) items xs) :
    listOf kind read (.arr items) = .ok xs := itemsFrom_eq_ok h 0

end Schema

end Wireframe
