import Wireframe.Proofs.Layout.Validation

/-!
# What validation accepts

The grammar of layouts as it stands on the wire: which keys an object has, which of them it must not
have, and which values they may have. It knows nothing of typed documents or of findings, and it tells
an absent key from one that is null.

* `IsComponent`, `IsSection`, `IsLayout` — the grammar.
* `isObject_componentShape_iff`, `isObject_sectionShape_iff`, `isObject_layoutShape_iff` — what has the
  shape that validation looks for is what is in the grammar.
* `valid_iff_isLayout` — validation accepts the grammar.
-/

set_option autoImplicit false

namespace Wireframe

/-! ## The grammar -/

/-- An object with a key of the catalog, a text, null or no text at all, and no collection in it. -/
inductive IsComponent : Json → Prop
  | intro {fields : Fields} {key : String}
      (hasKey : fields.get? "componentKey" = some (.str key))
      (allowed : key ∈ Catalog.keys)
      (text : ∀ v, fields.get? "text" = some v → v = .null ∨ ∃ s, v = .str s)
      (noComponents : "components" ∉ fields.keys)
      (noSections : "sections" ∉ fields.keys) :
      IsComponent (.obj fields)

/-- An object with a name that is not empty, a direction or none at all, no sections in it, and a list of
components. -/
inductive IsSection : Json → Prop
  | intro {fields : Fields} {name : String} {items : List Json}
      (hasName : fields.get? "section_name" = some (.str name))
      (named : name ≠ "")
      (noSections : "sections" ∉ fields.keys)
      (direction : ∀ v, fields.get? "layout_direction" = some v →
        v = .str "vertical" ∨ v = .str "horizontal" ∨ v = .str "grid")
      (components : fields.get? "components" = some (.arr items))
      (each : ∀ v ∈ items, IsComponent v) :
      IsSection (.obj fields)

/-- An object for the web or for a mobile, with two texts and a list of sections. -/
inductive IsLayout : Json → Prop
  | intro {fields : Fields} {application archetype : String} {items : List Json}
      (screenType : fields.get? "screenType" = some (.str "web") ∨
        fields.get? "screenType" = some (.str "mobile"))
      (applicationType : fields.get? "application_type" = some (.str application))
      (layoutArchetype : fields.get? "layout_archetype" = some (.str archetype))
      (sections : fields.get? "sections" = some (.arr items))
      (each : ∀ v ∈ items, IsSection v) :
      IsLayout (.obj fields)

/-! ## Fields -/

theorem Fields.get_eq_str_iff {fields : Fields} {key s : String} :
    fields.get key = .str s ↔ fields.get? key = some (.str s) :=
  ⟨fun h => Fields.get?_of_get h nofun, Fields.get_of_get?⟩

theorem Fields.get_isArray_iff {fields : Fields} {key : String} {p : List Json → Prop} :
    (fields.get key).IsArray p ↔ ∃ items, fields.get? key = some (.arr items) ∧ p items := by
  constructor
  · rintro ⟨items, hitems, hp⟩
    exact ⟨items, Fields.get?_of_get hitems nofun, hp⟩
  · rintro ⟨items, hitems, hp⟩
    exact ⟨items, Fields.get_of_get? hitems, hp⟩

theorem Catalog.allows_iff {key : String} : Catalog.allows key = true ↔ key ∈ Catalog.keys := by
  unfold allows find? keys
  rw [List.find?_isSome, List.mem_map]
  simp only [beq_iff_eq]

/-- A text, null or nothing at all under a key. -/
theorem exists_ofText?_iff {fields : Fields} {key : String} :
    (∃ text?, fields.get key = .ofText? text?) ↔
      ∀ v, fields.get? key = some v → v = .null ∨ ∃ s, v = .str s := by
  unfold Fields.get
  cases fields.get? key with
  | none => exact iff_of_true ⟨none, rfl⟩ nofun
  | some v =>
    simp only [Option.getD_some, Option.some.injEq, forall_eq']
    constructor
    · rintro ⟨_ | s, rfl⟩
      · exact .inl rfl
      · exact .inr ⟨s, rfl⟩
    · rintro (rfl | ⟨s, rfl⟩)
      · exact ⟨none, rfl⟩
      · exact ⟨some s, rfl⟩

/-- A direction or nothing at all under a key; null is not nothing. -/
theorem exists_direction_iff {fields : Fields} {key : String} :
    (∃ d : Direction, (fields.get? key).getD (.str "vertical") = .str d.text) ↔
      ∀ v, fields.get? key = some v →
        v = .str "vertical" ∨ v = .str "horizontal" ∨ v = .str "grid" := by
  cases fields.get? key with
  | none => exact iff_of_true ⟨.vertical, rfl⟩ nofun
  | some v =>
    simp only [Option.getD_some, Option.some.injEq, forall_eq']
    constructor
    · rintro ⟨d, rfl⟩
      cases d with
      | vertical => exact .inl rfl
      | horizontal => exact .inr (.inl rfl)
      | grid => exact .inr (.inr rfl)
    · rintro (rfl | rfl | rfl)
      · exact ⟨.vertical, rfl⟩
      · exact ⟨.horizontal, rfl⟩
      · exact ⟨.grid, rfl⟩

theorem exists_screenType_iff {fields : Fields} {key : String} :
    (∃ t : ScreenType, fields.get key = .str t.text) ↔
      fields.get? key = some (.str "web") ∨ fields.get? key = some (.str "mobile") := by
  simp only [Fields.get_eq_str_iff]
  constructor
  · rintro ⟨t, ht⟩
    cases t with
    | web => exact .inl ht
    | mobile => exact .inr ht
  · rintro (h | h)
    · exact ⟨.web, h⟩
    · exact ⟨.mobile, h⟩

/-! ## Shapes and the grammar -/

theorem isObject_componentShape_iff {v : Json} : v.IsObject ComponentShape ↔ IsComponent v := by
  constructor
  · rintro ⟨fields, rfl, ⟨key, hkey, hallows⟩, htext, hflat⟩
    exact .intro (Fields.get_eq_str_iff.1 hkey) (Catalog.allows_iff.1 hallows)
      (exists_ofText?_iff.1 htext)
      (Fields.has_eq_false_iff.1 (hflat "components" (by decide)))
      (Fields.has_eq_false_iff.1 (hflat "sections" (by decide)))
  · rintro @⟨fields, key, hkey, hallowed, htext, hcomponents, hsections⟩
    refine ⟨fields, rfl, ⟨key, Fields.get_eq_str_iff.2 hkey, Catalog.allows_iff.2 hallowed⟩,
      exists_ofText?_iff.2 htext, ?_⟩
    simp only [nestedKeys, List.forall_mem_cons, Fields.has_eq_false_iff]
    exact ⟨hcomponents, hsections, nofun⟩

theorem isObject_sectionShape_iff {v : Json} : v.IsObject SectionShape ↔ IsSection v := by
  constructor
  · rintro ⟨fields, rfl, ⟨name, hname, hnamed⟩, hflat, hdirection, hcomponents⟩
    obtain ⟨items, hitems, hall⟩ := Fields.get_isArray_iff.1 hcomponents
    exact .intro (Fields.get_eq_str_iff.1 hname) hnamed (Fields.has_eq_false_iff.1 hflat)
      (exists_direction_iff.1 hdirection) hitems
      fun w hw => isObject_componentShape_iff.1 (hall w hw)
  · rintro @⟨fields, name, items, hname, hnamed, hflat, hdirection, hitems, hall⟩
    exact ⟨fields, rfl, ⟨name, Fields.get_eq_str_iff.2 hname, hnamed⟩,
      Fields.has_eq_false_iff.2 hflat, exists_direction_iff.2 hdirection,
      Fields.get_isArray_iff.2 ⟨items, hitems, fun w hw => isObject_componentShape_iff.2 (hall w hw)⟩⟩

theorem isObject_layoutShape_iff {v : Json} : v.IsObject LayoutShape ↔ IsLayout v := by
  constructor
  · rintro ⟨fields, rfl, hscreen, ⟨application, happ⟩, ⟨archetype, harch⟩, hsections⟩
    obtain ⟨items, hitems, hall⟩ := Fields.get_isArray_iff.1 hsections
    exact .intro (exists_screenType_iff.1 hscreen) (Fields.get_eq_str_iff.1 happ)
      (Fields.get_eq_str_iff.1 harch) hitems fun w hw => isObject_sectionShape_iff.1 (hall w hw)
  · rintro @⟨fields, application, archetype, items, hscreen, happ, harch, hitems, hall⟩
    exact ⟨fields, rfl, exists_screenType_iff.2 hscreen, ⟨application, Fields.get_eq_str_iff.2 happ⟩,
      ⟨archetype, Fields.get_eq_str_iff.2 harch⟩,
      Fields.get_isArray_iff.2 ⟨items, hitems, fun w hw => isObject_sectionShape_iff.2 (hall w hw)⟩⟩

/-! ## Acceptance -/

/-- **Validation accepts the grammar.** Whatever value it judges, it finds it valid exactly when the
value is a layout. -/
theorem valid_iff_isLayout {raw : Json} {r : ValidationResult} (judged : validateLayout raw = .ok r) :
    r.valid = true ↔ IsLayout raw := by
  rw [valid_iff_layoutShape judged, isObject_layoutShape_iff]

theorem annotatedLayout_accepted :
    ∃ r, validateLayout (.obj annotatedLayout) = .ok r ∧
      (r.valid = true ↔ IsLayout (.obj annotatedLayout)) ∧ IsLayout (.obj annotatedLayout) := by
  obtain ⟨r, judged, valid⟩ := annotatedLayout_valid
  have accepted := valid_iff_isLayout judged
  exact ⟨r, judged, accepted, accepted.1 valid⟩

end Wireframe
