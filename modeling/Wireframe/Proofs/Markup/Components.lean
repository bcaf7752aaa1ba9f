import Wireframe.Markup.Render
import Wireframe.Proofs.Markup.Reading
import Wireframe.Proofs.Naming

/-!
# The markup of components, read back

The values of attributes are escaped, so a component's attributes come back from its markup whatever its
texts are. What stands between the tags is not escaped: a text comes back from there when it holds
neither markup nor a reference.

* `isAttributeName_attributes` — components have attributes with proper names.
* `attributes_read_back` — the attributes of every kind of component.
* `content_reads_back_iff` — the content of headings and texts.
* `heading_breaks_out` — texts that do not come back.
-/

set_option autoImplicit false

namespace Wireframe

open Markup

variable {c : Char} {entry : MappingEntry} {inferred : Option InferredInputs}

/-! ## Names of attributes -/

instance (name : List Char) : Decidable (IsAttributeName name) :=
  decidable_of_iff (name ≠ [] ∧ name.all isAttributeNameChar = true)
    ⟨fun ⟨hne, hchars⟩ => ⟨hne, List.all_eq_true.1 hchars⟩,
      fun h => ⟨h.nonempty, List.all_eq_true.2 h.chars⟩⟩

theorem isAttributeNameChar_of_isIdentifierPart (h : Naming.isIdentifierPart c = true) :
    isAttributeNameChar c = true := by
  have hother : [' ', '\t', '\n', '\x0c', '\r', '/', '>', '=', '"', '\'', '<'].all
      (fun d => !Naming.isIdentifierPart d) = true := by decide
  have hne (d : Char) (hd : d ∈ [' ', '\t', '\n', '\x0c', '\r', '/', '>', '=', '"', '\'', '<']) :
      c ≠ d := by
    rintro rfl
    have hpart := List.all_eq_true.1 hother c hd
    rw [h] at hpart
    cases hpart
  simp only [List.forall_mem_cons, List.not_mem_nil, false_implies, implies_true, and_true] at hne
  simp [isAttributeNameChar, isTagNameChar, isTagBlank, hne]

/-- An identifier in brackets is the name of an attribute. -/
theorem isAttributeName_brackets {name : String} (h : Naming.isIdentifierText name.toList = true) :
    IsAttributeName (Attribute.ofTexts s!"[{name}]" name).name := by
  have hbrackets : (Attribute.ofTexts s!"[{name}]" name).name = '[' :: (name.toList ++ [']']) := by
    simp [Attribute.ofTexts, toString]
  rw [hbrackets]
  refine ⟨List.cons_ne_nil _ _, ?_⟩
  intro c hc
  rcases List.mem_cons.1 hc with rfl | hc
  · decide
  · rcases List.mem_append.1 hc with hc | hc
    · exact isAttributeNameChar_of_isIdentifierPart (Naming.isIdentifierPart_of_mem h hc)
    · rw [List.mem_singleton.1 hc]
      decide

theorem isAttributeName_ofTexts {name : String} (h : IsAttributeName name.toList) (value : String) :
    IsAttributeName (Attribute.ofTexts name value).name := h

/-- The attributes of a component have proper names when its inputs have. -/
theorem isAttributeName_attributes
    (h : ∀ i ∈ inferred, ∀ name ∈ i.names, Naming.isIdentifierText name.toList = true)
    (c : DesignComponent) (entry : MappingEntry) :
    ∀ a ∈ c.attributes entry inferred, IsAttributeName a.name := by
  have hbooleans : ∀ a ∈ booleanAttributes inferred, IsAttributeName a.name := by
    cases inferred with
    | none => exact fun a ha => absurd ha List.not_mem_nil
    | some i =>
      intro a ha
      obtain ⟨item, hitem, rfl⟩ := List.mem_map.1 ha
      have hmem : item.name ∈ i.names := List.mem_map_of_mem (List.mem_filter.1 hitem).1
      exact isAttributeName_brackets (h i rfl item.name hmem)
  cases c with
  | heading s => exact fun a ha => absurd ha List.not_mem_nil
  | text s =>
    rw [DesignComponent.attributes, List.forall_mem_singleton]
    exact isAttributeName_ofTexts (by decide) _
  | input label inputType =>
    simp only [DesignComponent.attributes, List.forall_mem_cons]
    exact ⟨isAttributeName_ofTexts (by decide) _, isAttributeName_ofTexts (by decide) _,
      isAttributeName_ofTexts (by decide) _, nofun⟩
  | button variant s =>
    simp only [DesignComponent.attributes, List.forall_mem_append, List.forall_mem_cons]
    exact ⟨⟨isAttributeName_ofTexts (by decide) _, isAttributeName_ofTexts (by decide) _,
      isAttributeName_ofTexts (by decide) _, nofun⟩, hbooleans⟩
  | container variant =>
    rw [DesignComponent.attributes, List.forall_mem_singleton]
    exact isAttributeName_ofTexts (by decide) _

/-! ## Attributes -/

theorem readOpening?_renderMarkup (htag : isTagName entry.tag.toList = true)
    (hnames : ∀ i ∈ inferred, ∀ name ∈ i.names, Naming.isIdentifierText name.toList = true)
    (c : DesignComponent) :
    readOpening? (renderMarkup c (some entry) inferred) = some {
      tag := entry.tag.toList
      attributes := c.attributes entry inferred
      behind := (c.content entry inferred).toList ++ '<' :: '/' :: (entry.tag.toList ++ ['>']) } := by
  have hwritten : renderMarkup c (some entry) inferred = (c.element entry inferred).opening ++
      ((c.content entry inferred).toList ++ '<' :: '/' :: (entry.tag.toList ++ ['>'])) := by
    rw [← List.append_assoc]
    rfl
  rw [hwritten]
  exact readOpening?_write (e := c.element entry inferred) htag
    (isAttributeName_attributes hnames c entry) _

/-- **The attributes of a component come back from its markup.** For an entry whose tag has a name, and
inputs that are named by identifiers or none, the opening tag of a text, an input, a button or a
container holds these attributes in this order and no others. Labels, placeholders and classes are the
component's texts, whatever characters they are of; only the label of a button gives way to its
interpolation when a label is among the inputs. -/
theorem attributes_read_back (entry : MappingEntry) (inferred : Option InferredInputs)
    (htag : isTagName entry.tag.toList = true)
    (hnames : ∀ i ∈ inferred, ∀ name ∈ i.names, Naming.isIdentifierText name.toList = true) :
    let tag := entry.tag.toList
    let closing := '<' :: '/' :: (tag ++ ['>'])
    let read (c : DesignComponent) := readOpening? (renderMarkup c (some entry) inferred)
    (∀ s, read (.text s) = some {
        tag
        attributes := [.ofTexts "class" ((entry.attributes.lookup "class").getD "text-content")]
        behind := s.toList ++ closing }) ∧
      (∀ label inputType, read (.input label inputType) = some {
        tag
        attributes := [.ofTexts "type" (fieldType inputType), .ofTexts "placeholder" label,
          .ofTexts "[(ngModel)]" (modelName label)]
        behind := closing }) ∧
      (∀ variant s, read (.button variant s) = some {
        tag
        attributes :=
          [.ofTexts "label" (if hasLabel inferred then interpolation "label" else s),
            .ofTexts "severity" (buttonSeverity variant),
            .ofTexts "(click)" (handlerName s ++ "()")] ++
          ((inferred.map (·.booleans)).getD []).map fun item =>
            .ofTexts s!"[{item.name}]" item.name
        behind := closing }) ∧
      ∀ variant, read (.container variant) = some {
        tag
        attributes := [.ofTexts "class" (containerClass variant)]
        behind := (entry.content.getD "").toList ++ closing } := by
  intro tag closing read
  have hread := readOpening?_renderMarkup htag hnames
  have hbooleans : booleanAttributes inferred = ((inferred.map (·.booleans)).getD []).map
      fun item => .ofTexts s!"[{item.name}]" item.name := by
    cases inferred <;> rfl
  refine ⟨fun s => hread (.text s), fun label inputType => hread (.input label inputType), ?_,
    fun variant => hread (.container variant)⟩
  intro variant s
  rw [← hbooleans]
  exact hread (.button variant s)

/-- A truth value among the inputs. -/
def disabledInputs : InferredInputs where
  inputs := [⟨"disabled", .boolean, some (.flag false), none, some .boolean⟩]
  bindings := []
  warnings := []

theorem attributes_read_back_quoted :
    isTagName "p-button".toList = true ∧
      (∀ i ∈ some disabledInputs, ∀ name ∈ i.names, Naming.isIdentifierText name.toList = true) ∧
      readOpening? (renderMarkup (.button "danger" "Say \"hi\" &amp; go")
        (some (.standard .button)) (some disabledInputs)) = some {
          tag := "p-button".toList
          attributes := [.ofTexts "label" "Say \"hi\" &amp; go", .ofTexts "severity" "danger",
            .ofTexts "(click)" "onSayHiAmpGoClick()", .ofTexts "[disabled]" "disabled"]
          behind := "</p-button>".toList } := by
  have htag : isTagName "p-button".toList = true := by decide
  have hnames : ∀ i ∈ some disabledInputs, ∀ name ∈ i.names,
      Naming.isIdentifierText name.toList = true := by decide
  have hread := (attributes_read_back (.standard .button) (some disabledInputs) htag hnames).2.2.1
    "danger" "Say \"hi\" &amp; go"
  refine ⟨htag, hnames, hread.trans ?_⟩
  decide

/-! ## Contents -/

/-- A text that means itself where it stands as content: no markup and no reference is in it. -/
structure IsPlain (refs : List Reference) (s : List Char) : Prop where
  markup : ¬HasMarkup s
  references : ∀ r ∈ refs, ¬r.write <:+: s

theorem isPlain_iff {refs : List Reference} {s : List Char} :
    IsPlain refs s ↔ ¬HasMarkup s ∧ decoded refs s = s := by
  rw [decoded_eq_self_iff]
  exact ⟨fun h => ⟨h.markup, h.references⟩, fun ⟨hmarkup, hrefs⟩ => ⟨hmarkup, hrefs⟩⟩

theorem isPlain_of_not_mem {refs : List Reference} {s : List Char} (hless : '<' ∉ s) (hamp : '&' ∉ s) :
    IsPlain refs s where
  markup := by
    rintro ⟨t, ht, hstart⟩
    match t, hstart with
    | c :: d :: rest, hstart =>
      rw [startsMarkup, Bool.and_eq_true, beq_iff_eq] at hstart
      rw [hstart.1] at ht
      exact hless (ht.mem List.mem_cons_self)
  references r _ hoccurs := hamp (hoccurs.mem List.mem_cons_self)

theorem readElement?_renderMarkup_iff (c : DesignComponent)
    (hnames : ∀ a ∈ c.attributes entry inferred, IsAttributeName a.name) (refs : List Reference) :
    readElement? refs (renderMarkup c (some entry) inferred) = some {
        tag := entry.tag.toList
        attributes := c.attributes entry inferred
        content := (c.content entry inferred).toList } ↔
      isTagName entry.tag.toList = true ∧ IsPlain refs (c.content entry inferred).toList := by
  rw [isPlain_iff]
  exact readElement?_write_iff (e := c.element entry inferred) hnames refs _

/-- **The content of a component comes back unless it holds markup.** Whatever the references are that a
reader knows, the markup of a heading is a single element with the heading's text between its two tags
exactly when the tag has a name and the text is plain: no tag, comment or declaration begins in it, and
no reference occurs in it. A heading that interpolates a label is always plain. The same holds of a text,
which has a class besides. -/
theorem content_reads_back_iff (refs : List Reference) (entry : MappingEntry)
    (inferred : Option InferredInputs) (s : String) :
    let tag := entry.tag.toList
    (readElement? refs (renderMarkup (.heading s) (some entry) inferred) = some {
        tag
        attributes := []
        content := (if hasLabel inferred then interpolation "label" else s).toList } ↔
      isTagName tag = true ∧ (hasLabel inferred = true ∨ IsPlain refs s.toList)) ∧
    (readElement? refs (renderMarkup (.text s) (some entry) inferred) = some {
        tag
        attributes := [.ofTexts "class" ((entry.attributes.lookup "class").getD "text-content")]
        content := s.toList } ↔
      isTagName tag = true ∧ IsPlain refs s.toList) := by
  intro tag
  have hlabel : IsPlain refs (interpolation "label").toList :=
    isPlain_of_not_mem (by decide) (by decide)
  constructor
  · refine (readElement?_renderMarkup_iff (.heading s) nofun refs).trans
      (and_congr_right fun _ => ?_)
    show IsPlain refs (if hasLabel inferred then interpolation "label" else s).toList ↔ _
    by_cases hhas : hasLabel inferred = true
    · rw [if_pos hhas]
      exact iff_of_true hlabel (.inl hhas)
    · rw [if_neg hhas, or_iff_right hhas]
  · refine readElement?_renderMarkup_iff (.text s) ?_ refs
    rw [DesignComponent.attributes, List.forall_mem_singleton]
    exact isAttributeName_ofTexts (by decide) _

/-- **A heading breaks out of its element.** A text that closes the tag of its heading and opens another
one does so, and a reference in a text is taken for the character that it names. -/
theorem heading_breaks_out :
    renderMarkup (.heading "</h1><script>alert(1)</script>") none none =
        "<h1></h1><script>alert(1)</script></h1>".toList ∧
      readElement? valueReferences
        (renderMarkup (.heading "</h1><script>alert(1)</script>") none none) = none ∧
      readElement? valueReferences (renderMarkup (.heading "AT&amp;T") none none) =
        some { tag := "h1".toList, attributes := [], content := "AT&T".toList } := by
  decide

end Wireframe
