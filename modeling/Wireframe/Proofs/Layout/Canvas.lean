import Wireframe.Layout.Decode
import Wireframe.Proofs.Json.Fields
import Wireframe.Proofs.Number.Truncation
import Wireframe.Proofs.Schema.Readers

/-!
# Which canvases can be read

A side is positive before its fraction is cut off, and has to be positive afterwards. Between the
two lie not-a-number, the positive infinity and the fractions below one: they stop the reading.

* `CanvasSize.Stops` — the canvases with two positive sides of which one has no whole part.
* `CanvasSize.ofWire?_error_iff` — exactly these stop the reading.
* `CanvasSize.ofWire?_toJson` — a canvas is read back from its wire form.
-/

set_option autoImplicit false

namespace Wireframe.CanvasSize

/-- Whether a number has no whole part of at least one. -/
def lacksWhole : Json → Bool
  | .float x => !x.isFinite || x.lt (.ofInt 1)
  | _ => false

/-- A canvas that stops the reading: both sides count as positive, and one lacks a whole part. -/
def Stops (v : Json) : Prop :=
  v.IsObject fun fields =>
    isSide (fields.get "width") = true ∧ isSide (fields.get "height") = true ∧
      (lacksWhole (fields.get "width") = true ∨ lacksWhole (fields.get "height") = true)

/-! ## Sides -/

theorem isSide_float {x : Binary64} {n : Int} {d : Nat} (h : x.toRatio? = some (n, d)) :
    isSide (.float x) = true ↔ 0 < n := by
  rw [← Binary64.zero_lt_iff h]
  cases x with
  | nan => cases h
  | infinity s => cases h
  | finite s m e => simp [isSide, Binary64.le, Binary64.zero]

/-- A side with a whole part is cut off to a positive integer. -/
theorem wholeSide_pos {v : Json} (hs : isSide v = true) (hw : lacksWhole v = false) :
    ∃ n, wholeSide v = .ok n ∧ 0 < n := by
  cases v with
  | int n => exact ⟨n, rfl, by simpa [isSide] using hs⟩
  | float x =>
    simp only [lacksWhole, Bool.or_eq_false_iff, Bool.not_eq_false'] at hw
    obtain ⟨hfin, hlt⟩ := hw
    cases hr : x.toRatio? with
    | none => rw [Binary64.toRatio?_eq_none_iff.1 hr] at hfin; cases hfin
    | some p =>
      obtain ⟨n, d⟩ := p
      have hn : 0 < n := (isSide_float hr).1 hs
      have hd : (d : Int) ≤ n := by
        have := mt (Binary64.lt_one_iff hr).2 (by simp [hlt])
        omega
      refine ⟨Int.tdiv n d, ?_, (Binary64.trunc_pos_iff hr hn).2 hd⟩
      simp [wholeSide, Binary64.trunc?, hr]
  | _ => cases hs

/-- A side without a whole part has no integer part, or one that is not positive. -/
theorem wholeSide_not_pos {v : Json} (hs : isSide v = true) (hw : lacksWhole v = true) :
    ∀ n, wholeSide v = .ok n → n ≤ 0 := by
  intro n hn
  cases v with
  | float x =>
    cases hr : x.toRatio? with
    | none => simp [wholeSide, Binary64.trunc?, hr] at hn
    | some p =>
      obtain ⟨k, d⟩ := p
      have hk : 0 < k := (isSide_float hr).1 hs
      have hfin : x.isFinite = true := by
        cases hf : x.isFinite
        · rw [Binary64.toRatio?_eq_none_iff.2 hf] at hr; cases hr
        · rfl
      have hlt : x.lt (.ofInt 1) = true := by simpa [lacksWhole, hfin] using hw
      have hkd := (Binary64.lt_one_iff hr).1 hlt
      simp only [wholeSide, Binary64.trunc?, hr, Option.map_some, Except.ok.injEq] at hn
      have := mt (Binary64.trunc_pos_iff hr hk).1 (by omega)
      omega
  | _ => cases hw

/-! ## Both sides -/

/-- A whole number as a side of a canvas. -/
def checkedSide (name : String) (n : Int) : Schema.Checked Int :=
  Schema.under (.field name) (Schema.intAbove 0 (.int n))

theorem checkedSide_pos (name : String) {n : Int} (h : 0 < n) : checkedSide name n = .ok n := by
  simp [checkedSide, Schema.intAbove, Schema.int, h, Schema.under, Except.mapError, bind,
    Except.bind]

theorem checkedSide_not_pos (name : String) {n : Int} (h : n ≤ 0) :
    ∃ issues, checkedSide name n = .error issues := by
  have : ¬0 < n := by omega
  simp [checkedSide, Schema.intAbove, Schema.int, this, Schema.issue, Schema.under, Except.mapError,
    bind, Except.bind]

theorem ofSides_pos {w h : Int} (hw : 0 < w) (hh : 0 < h) :
    ofSides (checkedSide "width" w) (checkedSide "height" h) =
      .ok ⟨w.toNat, h.toNat, by omega, by omega⟩ := by
  have hw' : 0 < w.toNat := by omega
  have hh' : 0 < h.toNat := by omega
  simp only [ofSides, checkedSide_pos _ hw, checkedSide_pos _ hh, Schema.both_ok, bind, Except.bind,
    dif_pos hw', dif_pos hh']

theorem ofSides_error {w h : Schema.Checked Int} (he : (∃ e, w = .error e) ∨ ∃ e, h = .error e) :
    ∃ issues, ofSides w h = .error issues := by
  rcases he with ⟨e, rfl⟩ | ⟨e, rfl⟩
  · cases h <;> exact ⟨_, rfl⟩
  · cases w <;> exact ⟨_, rfl⟩

/-- The canvas with given whole sides, or the rejection of those that are not positive. -/
def ofWhole (w h : Int) : Except Failure (Option CanvasSize) :=
  match Schema.forModel "CanvasSize" (ofSides (checkedSide "width" w) (checkedSide "height" h)) with
  | .ok canvas => .ok (some canvas)
  | .error r => .error (.rejected r)

theorem ofWhole_pos {w h : Int} (hw : 0 < w) (hh : 0 < h) :
    ofWhole w h = .ok (some ⟨w.toNat, h.toNat, by omega, by omega⟩) := by
  simp only [ofWhole, Schema.forModel_eq_ok (ofSides_pos hw hh)]

theorem ofWhole_not_pos {w h : Int} (hn : w ≤ 0 ∨ h ≤ 0) : ∃ f, ofWhole w h = .error f := by
  obtain ⟨issues, hi⟩ : ∃ issues,
      ofSides (checkedSide "width" w) (checkedSide "height" h) = .error issues := by
    rcases hn with hn | hn
    · exact ofSides_error (.inl (checkedSide_not_pos _ hn))
    · exact ofSides_error (.inr (checkedSide_not_pos _ hn))
  refine ⟨.rejected ⟨"CanvasSize", issues⟩, ?_⟩
  simp only [ofWhole, hi, Schema.forModel, Except.mapError]

theorem ofWire?_obj (fields : Fields) :
    ofWire? (.obj fields) =
      if isSide (fields.get "width") && isSide (fields.get "height") then do
        let w ← wholeSide (fields.get "width")
        let h ← wholeSide (fields.get "height")
        ofWhole w h
      else .ok none := rfl

/-! ## Reading -/

theorem ofWire?_obj_error {fields : Fields} (hw : isSide (fields.get "width") = true)
    (hh : isSide (fields.get "height") = true)
    (hl : lacksWhole (fields.get "width") = true ∨ lacksWhole (fields.get "height") = true) :
    ∃ f, ofWire? (.obj fields) = .error f := by
  rw [ofWire?_obj, if_pos (by rw [hw, hh]; rfl)]
  cases hwn : wholeSide (fields.get "width") with
  | error f => exact ⟨f, rfl⟩
  | ok w =>
    cases hhn : wholeSide (fields.get "height") with
    | error f => exact ⟨f, rfl⟩
    | ok h =>
      have hn : w ≤ 0 ∨ h ≤ 0 := by
        rcases hl with hl | hl
        · exact .inl (wholeSide_not_pos hw hl w hwn)
        · exact .inr (wholeSide_not_pos hh hl h hhn)
      exact ofWhole_not_pos hn

theorem ofWire?_obj_ok {fields : Fields} (h : ¬Stops (.obj fields)) :
    ∃ canvas?, ofWire? (.obj fields) = .ok canvas? := by
  rw [ofWire?_obj]
  split
  · rename_i hs
    obtain ⟨hw, hh⟩ := (Bool.and_eq_true _ _).mp hs
    have hlacks : lacksWhole (fields.get "width") = false ∧
        lacksWhole (fields.get "height") = false := by
      unfold Stops at h
      rw [Json.isObject_obj] at h
      simpa [hw, hh] using h
    obtain ⟨w, hwn, hwp⟩ := wholeSide_pos hw hlacks.1
    obtain ⟨k, hkn, hkp⟩ := wholeSide_pos hh hlacks.2
    rw [hwn, hkn]
    exact ⟨_, ofWhole_pos hwp hkp⟩
  · exact ⟨none, rfl⟩

/-- **Only a canvas with positive sides of which one has no whole part stops the reading.** -/
theorem ofWire?_error_iff {v : Json} : (∃ f, ofWire? v = .error f) ↔ Stops v := by
  constructor
  · rintro ⟨f, hf⟩
    by_contra hv
    obtain ⟨canvas?, hok⟩ : ∃ canvas?, ofWire? v = .ok canvas? := by
      cases v with
      | obj fields => exact ofWire?_obj_ok hv
      | _ => exact ⟨none, rfl⟩
    rw [hf] at hok
    cases hok
  · rintro ⟨fields, rfl, hw, hh, hl⟩
    exact ofWire?_obj_error hw hh hl

theorem ofWire?_toJson (c : CanvasSize) : ofWire? c.toJson = .ok (some c) := by
  have hw : (0 : Int) < c.width := by exact_mod_cast c.width_pos
  have hh : (0 : Int) < c.height := by exact_mod_cast c.height_pos
  have hsides : (isSide (.int c.width) && isSide (.int c.height)) = true := by
    simp [isSide, c.width_pos, c.height_pos]
  exact (if_pos hsides).trans (ofWhole_pos hw hh)

end Wireframe.CanvasSize
