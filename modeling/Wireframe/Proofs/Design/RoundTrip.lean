import Wireframe.Design.Decode
import Wireframe.Proofs.Json.RoundTrip
import Wireframe.Proofs.Schema.Readers

/-!
# Designs come back from their JSON form

* `Design.read_toJson` — a design is read from its JSON form as it was, its absent values included.
* `Design.isTextual_toJson` — its JSON form is made of texts, so that it comes back from text as well.
-/

set_option autoImplicit false

namespace Wireframe

open Schema

/-! ## The parts of a design -/

/-- Tokens are read from their JSON form, a size that is not set by its default. -/
theorem DesignTokens.read_toJson (t : DesignTokens) : DesignTokens.read t.toJson = .ok t := by
  obtain ⟨primaryColor, spacing, borderRadius, fontSize⟩ := t
  cases fontSize <;> rfl

theorem DesignComponent.read_toJson (c : DesignComponent) :
    DesignComponent.read c.toJson = .ok c := by
  cases c <;> rfl

theorem Flow.lookup_options (f : Flow) : Flow.options.lookup f.text = some f := by
  cases f <;> rfl

namespace Design

/-- **A design is read from its JSON form as it was.** -/
theorem read_toJson (d : Design) : Design.read d.toJson = .ok d := by
  have hname : required d.fields ["screenName", "screen_name"] text = .ok d.screenName :=
    required_eq_ok rfl rfl
  have hflow : optional d.fields ["layout"] .vertical (oneOf Flow.options) = .ok d.flow :=
    optional_eq_ok rfl (oneOf_eq_ok d.flow.lookup_options)
  have hcomponents : optional d.fields ["components"] [] (listOf .notTuple DesignComponent.read) =
      .ok d.components := by
    refine optional_eq_ok rfl (listOf_eq_ok (List.forall₂_map_left_iff.2 (List.forall₂_same.2 ?_)))
    exact fun c _ => c.read_toJson
  have htokens : optional d.fields ["tokens"] {} DesignTokens.read = .ok d.tokens :=
    optional_eq_ok rfl d.tokens.read_toJson
  unfold Design.read
  rw [toJson, fieldsOr]
  simp only [bind, Except.bind, hname, hflow, hcomponents, htokens, both_ok]

end Design

/-! ## Designs as text -/

open Json

variable {depth : Nat}

theorem DesignComponent.isTextual_toJson (c : DesignComponent) : IsTextual (depth + 1) c.toJson := by
  refine .obj ?_ ?_
  · cases c <;> simp [DesignComponent.fields, Fields.keys]
  · cases c <;> simp [DesignComponent.fields, IsTextual.str]

theorem DesignTokens.isTextual_toJson (t : DesignTokens) : IsTextual (depth + 1) t.toJson := by
  obtain ⟨primaryColor, spacing, borderRadius, fontSize⟩ := t
  refine .obj ?_ (List.forall_mem_map.2 fun e _ => .str e.2)
  cases fontSize <;> simp [DesignTokens.entries, Fields.keys]

/-- The JSON form of a design is made of texts. -/
theorem Design.isTextual_toJson (d : Design) : IsTextual (depth + 3) d.toJson := by
  refine .obj (by simp [Design.fields, Fields.keys]) ?_
  simp only [Design.fields, List.forall_mem_cons]
  exact ⟨.str _, .str _, .arr (List.forall_mem_map.2 fun c _ => c.isTextual_toJson),
    d.tokens.isTextual_toJson, List.forall_mem_nil _⟩

end Wireframe
