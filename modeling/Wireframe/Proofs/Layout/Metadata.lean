import Wireframe.Proofs.Layout.Placement
import Wireframe.Proofs.Layout.Validation
import Wireframe.Proofs.Number.Rounding

/-!
# When a layout can be enhanced

What is derived from a document is computed in doubles. The counts of a document are far too small for
that to matter; its area is not, for the sides of a canvas are integers of any size.

* `CanvasSize.IsVast` — the canvases on which no density can be told.
* `LayoutDocument.countsFit` — the arithmetic of the counts stays among the finite doubles.
* `enhance_unless_vast` — a document is enhanced unless its own canvas is vast.
-/

set_option autoImplicit false

namespace Wireframe

/-- A canvas whose area, in units of density, is too large for a double. -/
def CanvasSize.IsVast (c : CanvasSize) : Prop := densityUnit * Binary64.limit ≤ c.area

namespace LayoutDocument

/-! ## Densities -/

variable {d : LayoutDocument} {c : CanvasSize}

theorem densityOn_of_vast (h : c.IsVast) (components : Nat) :
    densityOn components c = .error .quotientTooLarge := by
  unfold densityOn
  rw [Binary64.ofQuotient?_natCast c.area (by decide), if_neg (Nat.not_lt.2 h)]

theorem densityOn_of_not_vast (h : ¬c.IsVast) (components : Nat) :
    ∃ density, densityOn components c = .ok density := by
  unfold densityOn
  rw [Binary64.ofQuotient?_natCast c.area (by decide), if_pos (Nat.not_le.1 h)]
  dsimp only
  split
  · exact ⟨.low, rfl⟩
  · split
    · exact ⟨.medium, rfl⟩
    · exact ⟨.high, rfl⟩

/-- The canvas that a density refers to decides whether there is one. -/
theorem density_cases (d : LayoutDocument) (canvas? : Option CanvasSize) :
    ((∃ c, (canvas? <|> d.canvas) = some c ∧ c.IsVast) ∧
        d.density canvas? = .error .quotientTooLarge) ∨
      (∀ c, (canvas? <|> d.canvas) = some c → ¬c.IsVast) ∧ ∃ density, d.density canvas? = .ok density := by
  unfold density
  cases (canvas? <|> d.canvas) with
  | none => exact .inr ⟨nofun, .medium, rfl⟩
  | some c =>
    by_cases h : c.IsVast
    · exact .inl ⟨⟨c, rfl, h⟩, densityOn_of_vast h _⟩
    · refine .inr ⟨?_, densityOn_of_not_vast h _⟩
      rintro _ ⟨⟩
      exact h

theorem density_ok_iff (canvas? : Option CanvasSize) : (∃ density, d.density canvas? = .ok density) ↔
    ∀ c, (canvas? <|> d.canvas) = some c → ¬c.IsVast := by
  rcases d.density_cases canvas? with ⟨⟨c, hc, hvast⟩, herror⟩ | ⟨hcanvas, hok⟩
  · rw [herror]
    exact iff_of_false nofun fun h => h c hc hvast
  · exact iff_of_true hok hcanvas

/-- Nothing else keeps a density from being told than that the quotient is too large. -/
theorem eq_quotientTooLarge_of_density {canvas? : Option CanvasSize} {f : Failure}
    (h : d.density canvas? = .error f) : f = .quotientTooLarge := by
  rcases d.density_cases canvas? with ⟨-, herror⟩ | ⟨-, density, hok⟩
  · rw [herror] at h
    exact (Except.error.inj h).symm
  · rw [hok] at h
    cases h

theorem metadata_eq_error {f : Failure} : d.metadata = .error f ↔ d.density none = .error f := by
  unfold metadata
  cases d.density none with
  | error e => simp only [bind, Except.bind, Except.error.injEq]
  | ok density => exact iff_of_false nofun nofun

theorem enhance_eq_error {f : Failure} : d.enhance = .error f ↔ d.density none = .error f := by
  rw [← metadata_eq_error]
  unfold enhance
  cases d.metadata with
  | error e => simp only [bind, Except.bind, Except.error.injEq]
  | ok m => exact iff_of_false nofun nofun

/-- A document is enhanced exactly when its density can be told. -/
theorem exists_enhance_iff : (∃ l, d.enhance = .ok l) ↔ ∃ density, d.density none = .ok density := by
  cases hl : d.enhance with
  | error f =>
    rw [enhance_eq_error.1 hl]
    exact iff_of_false nofun nofun
  | ok l =>
    obtain ⟨m, hm, -⟩ := enhance_eq_ok.1 hl
    exact iff_of_true ⟨l, rfl⟩ ⟨_, (metadata_eq_ok.1 hm).1⟩

/-! ## Complexity -/

/-- The complexity lies between one and ten. -/
theorem complexity_mem (d : LayoutDocument) : 1 ≤ d.complexity ∧ d.complexity ≤ 10 := by
  unfold complexity
  split
  · exact ⟨Nat.le_refl 1, by decide⟩
  · dsimp only
    omega

/-- Counts whose arithmetic stays among the finite doubles: the number of components is one, and so are
the average and the load of which the complexity is the nearest integer, brought between its bounds. -/
structure CountsFit (d : LayoutDocument) : Prop where
  components : (Binary64.ofInt d.componentCount).isFinite = true
  complexity : d.sections ≠ [] → ∃ average load,
    Binary64.ofQuotient? d.componentCount d.sections.length = some average ∧
      (((Binary64.ofInt d.sections.length).mul average).div (Binary64.ofInt 2)).roundEven? =
        some load ∧
      d.complexity = max 1 (min 10 load.toNat)

theorem halfLoad_of_average {sections components : Nat} {average : Binary64}
    (h : Binary64.ofQuotient? components sections = some average) :
    halfLoad sections components =
      ((Binary64.ofInt sections).mul average).div (Binary64.ofInt 2) := by
  unfold halfLoad
  rw [h]

/-- A finite double has a nearest integer. -/
theorem exists_roundEven? {x : Binary64} (h : x.isFinite = true) : ∃ n, x.roundEven? = some n := by
  cases x with
  | finite negative m e => exact ⟨_, rfl⟩
  | _ => cases h

/-- No list is too long for the arithmetic of the counts. -/
theorem countsFit (hsections : d.sections.length ≤ 2 ^ 500) (hcomponents : d.componentCount ≤ 2 ^ 500) :
    d.CountsFit where
  components := (Binary64.ofInt_atMost (k := 500) hcomponents (by decide)).isFinite
  complexity hne := by
    have hpos : 0 < d.sections.length := List.length_pos_iff.2 hne
    have hquotient : d.componentCount ≤ d.sections.length * 2 ^ 500 :=
      hcomponents.trans (Nat.le_mul_of_pos_left _ hpos)
    have haverage : (Binary64.ofRatio false d.componentCount d.sections.length).AtMost 500 :=
      Binary64.ofRatio_atMost _ hpos hquotient (by decide)
    have hbelow := (Binary64.isFinite_ofRatio_iff _ _ hpos).1 haverage.isFinite
    have hsome := (Binary64.ofQuotient?_natCast d.componentCount hpos).trans (if_pos hbelow)
    have hload := ((Binary64.ofInt_atMost (k := 500) hsections (by decide)).mul haverage
      (by decide)).half (by decide)
    obtain ⟨load, hround⟩ := exists_roundEven? hload.isFinite
    refine ⟨_, load, hsome, hround, ?_⟩
    unfold LayoutDocument.complexity
    rw [if_neg (by simpa using hne), halfLoad_of_average hsome, hround]
    rfl

end LayoutDocument

/-! ## Enhancement -/

/-- **A document is enhanced unless its canvas is vast**, and a density is told on every canvas that is
not. On a vast canvas the quotient is too large; nothing else fails, whatever the sections hold, and
the metadata keep their bounds. -/
theorem enhance_unless_vast (d : LayoutDocument) :
    ((∃ l, d.enhance = .ok l) ↔ ∀ c, d.canvas = some c → ¬c.IsVast) ∧
      (∀ f, d.enhance = .error f → f = .quotientTooLarge) ∧
      (∀ l, d.enhance = .ok l → l.plain = d ∧ 1 ≤ l.metadata.complexity ∧ l.metadata.complexity ≤ 10 ∧
        l.metadata.sectionCount = d.sections.length ∧
        l.metadata.totalComponents = d.componentCount) ∧
      (∀ c, ((∃ density, d.density (some c) = .ok density) ↔ ¬c.IsVast) ∧
        ∀ f, d.density (some c) = .error f → f = .quotientTooLarge) ∧
      (d.sections.length ≤ 2 ^ 500 → d.componentCount ≤ 2 ^ 500 → d.CountsFit) := by
  refine ⟨?_, fun f hf => ?_, fun l hl => ?_, fun c => ⟨?_, fun f hf => ?_⟩,
    LayoutDocument.countsFit⟩
  · rw [LayoutDocument.exists_enhance_iff, LayoutDocument.density_ok_iff]
    rfl
  · exact LayoutDocument.eq_quotientTooLarge_of_density (LayoutDocument.enhance_eq_error.1 hf)
  · have hplain := LayoutDocument.plain_of_enhance hl
    obtain ⟨m, hm, rfl⟩ := LayoutDocument.enhance_eq_ok.1 hl
    obtain ⟨-, hmetadata⟩ := LayoutDocument.metadata_eq_ok.1 hm
    rw [hmetadata]
    exact ⟨hplain, d.complexity_mem.1, d.complexity_mem.2, rfl, rfl⟩
  · rw [LayoutDocument.density_ok_iff]
    constructor
    · intro h
      exact h c rfl
    · rintro h _ ⟨⟩
      exact h
  · exact LayoutDocument.eq_quotientTooLarge_of_density hf

/-- A canvas with more square pixels than doubles reach, in units of density. -/
def vastCanvas : CanvasSize :=
  ⟨10 ^ 200, 10 ^ 200, Nat.pow_pos (by decide), Nat.pow_pos (by decide)⟩

theorem vastCanvas_isVast : vastCanvas.IsVast := by
  unfold CanvasSize.IsVast
  decide +kernel

/-- A layout with a heading on it. -/
def vastLayout : LayoutDocument where
  screenType := .mobile
  applicationType := "auth"
  archetype := "mobile_form"
  canvas := some vastCanvas
  sections := [⟨"form_stack", .vertical, [⟨"heading", none⟩]⟩]

/-- A document that can be built and is valid is not enhanced, and on its canvas no document has a
density. -/
theorem vast_canvas_stops_enhancement :
    LayoutDocument.ofWire vastLayout.toWire = .ok vastLayout ∧
      vastLayout.enhance = .error .quotientTooLarge ∧
      ∀ d : LayoutDocument, d.density (some vastCanvas) = .error .quotientTooLarge := by
  refine ⟨ofWire_of_mirrors ⟨_, rfl, vastLayout.mirrors_wireFields⟩, ?_, fun d => ?_⟩
  · exact LayoutDocument.enhance_eq_error.2
      (LayoutDocument.densityOn_of_vast vastCanvas_isVast vastLayout.componentCount)
  · exact LayoutDocument.densityOn_of_vast vastCanvas_isVast d.componentCount

end Wireframe
