/-!
# Kinds of design components
-/

namespace Wireframe

/-- What a component of a design is. -/
inductive Kind where
  | heading
  | text
  | input
  | button
  | container
  deriving DecidableEq, Repr

namespace Kind

def tag : Kind → String
  | heading => "heading"
  | text => "text"
  | input => "input"
  | button => "button"
  | container => "container"

/-- The name of a kind in running text. -/
def title : Kind → String
  | heading => "Heading"
  | text => "Text"
  | input => "Input"
  | button => "Button"
  | container => "Container"

def all : List Kind := [heading, text, input, button, container]

def ofTag? (s : String) : Option Kind := all.find? (·.tag == s)

end Kind

end Wireframe
