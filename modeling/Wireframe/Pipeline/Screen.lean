import Wireframe.Pipeline.Code
import Wireframe.Pipeline.Layout

/-!
# Generating screens

`generateScreen` generates the layout of a described screen and then the code of that layout. Without
a layout there is no second half.
-/

namespace Wireframe

/-- What a screen is generated from. -/
structure ScreenOrder where
  /-- A text, as a rule. -/
  description : Json
  screenName : Json
  sample : Bool
  node : Json

/-- What a run for a screen came to. -/
structure ScreenRun where
  success : Bool
  layout : LayoutRun
  code : Option CodeRun
  errors : List String
  deriving Repr

/-- The order for the code of a screen whose layout is known. -/
def ScreenOrder.codeOrder (o : ScreenOrder) (l : EnhancedLayout) : CodeOrder :=
  ⟨.enhanced l, o.screenName, o.sample, o.node⟩

/-- Generates the layout and the code of a described screen. -/
def generateScreen (b : Backend) (o : ScreenOrder) : ScreenRun :=
  let layoutRun := generateLayout b o.description
  match layoutRun.layout with
  | none => ⟨false, layoutRun, none, layoutRun.errors⟩
  | some l =>
    let codeRun := generateCode b (o.codeOrder l)
    let errors := layoutRun.errors ++ codeRun.errors
    ⟨errors.isEmpty, layoutRun, some codeRun, errors⟩

namespace ScreenRun

/-- The questions that reached the backend. -/
def asked (r : ScreenRun) : List QuestionRecord :=
  r.layout.asked ++ ((r.code.map (·.asked)).getD [])

/-- What a client is told of a run. -/
def payload (r : ScreenRun) : Json :=
  .obj [("success", .bool r.success), ("layout", r.layout.payload),
    ("code", (r.code.map (·.payload)).getD .null), ("errors", .ofTexts r.errors)]

end ScreenRun

end Wireframe
