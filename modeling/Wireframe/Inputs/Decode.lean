import Wireframe.Inputs.Basic
import Wireframe.Schema.Decode

/-!
# Reading inferred inputs

`InferredInputs.read` reads inputs, bindings and warnings from their JSON form.
-/

namespace Wireframe

/-- Reads a default: a text, or a value that can be taken for a truth value. -/
def InputDefault.read : Schema.Reader InputDefault := fun v =>
  match v with
  | .str s => .ok (.text s)
  | _ =>
    match Schema.under (.field "bool") (Schema.bool v) with
    | .ok b => .ok (.flag b)
    | .error issues => .error (⟨.notText, [.field "str"], v⟩ :: issues)

/-- Reads an input; only its name has to be given. -/
def InferredInput.read : Schema.Reader InferredInput := fun v => do
  let fields ← Schema.fieldsOr (.notModel "InferredInput") v
  let (name, type, default, sourceProperty, sourceType) ← Schema.both
    (Schema.required fields ["name"] Schema.text)
    (Schema.both
      (Schema.optional fields ["type"] .string (Schema.oneOf InputType.options))
      (Schema.both
        (Schema.optional fields ["defaultValue", "default_value"] none
          (Schema.nullable InputDefault.read))
        (Schema.both
          (Schema.optional fields ["sourceProperty", "source_property"] none
            (Schema.nullable Schema.text))
          (Schema.optional fields ["sourceType", "source_type"] none
            (Schema.nullable (Schema.oneOf SourceType.options))))))
  .ok { name, type, default, sourceProperty, sourceType }

def TemplateBinding.read : Schema.Reader TemplateBinding := fun v => do
  let fields ← Schema.fieldsOr (.notModel "TemplateBinding") v
  let (kind, target, expression) ← Schema.both
    (Schema.required fields ["type"] (Schema.oneOf BindingKind.options))
    (Schema.both
      (Schema.required fields ["target"] Schema.text)
      (Schema.required fields ["expression"] Schema.text))
  .ok { kind, target, expression }

/-- Reads inputs, bindings and warnings; each list is empty unless given. -/
def InferredInputs.read : Schema.Reader InferredInputs := fun v => do
  let fields ← Schema.fieldsOr (.notModel "InferredInputs") v
  let (inputs, bindings, warnings) ← Schema.both
    (Schema.optional fields ["inputs"] [] (Schema.listOf .notTuple InferredInput.read))
    (Schema.both
      (Schema.optional fields ["templateBindings", "template_bindings"] []
        (Schema.listOf .notTuple TemplateBinding.read))
      (Schema.optional fields ["warnings"] [] (Schema.listOf .notTuple Schema.text)))
  .ok { inputs, bindings, warnings }

end Wireframe
