/-!
# Elements of a template

An element has a tag, attributes in order and a content. `Element.write` writes it; the quotes and
ampersands of attribute values are escaped.
-/

namespace Wireframe.Markup

/-- A name with its value. -/
structure Attribute where
  name : List Char
  value : List Char
  deriving DecidableEq, Repr

def Attribute.ofTexts (name value : String) : Attribute := ⟨name.toList, value.toList⟩

/-- An element with an opening and a closing tag. -/
structure Element where
  tag : List Char
  attributes : List Attribute
  content : List Char
  deriving DecidableEq, Repr

/-- A character inside an attribute value. -/
def escapedChar (c : Char) : List Char :=
  if c = '&' then "&amp;".toList else if c = '"' then "&quot;".toList else [c]

/-- An attribute value without quotes, and with each ampersand marked. -/
def escaped (value : List Char) : List Char := value.flatMap escapedChar

def Attribute.write (a : Attribute) : List Char := a.name ++ '=' :: '"' :: (escaped a.value ++ ['"'])

/-- Attributes as they are written, each after a blank. -/
def writeAttributes (attributes : List Attribute) : List Char :=
  attributes.flatMap fun a => ' ' :: a.write

namespace Element

def opening (e : Element) : List Char := '<' :: (e.tag ++ writeAttributes e.attributes ++ ['>'])

def closing (e : Element) : List Char := '<' :: '/' :: (e.tag ++ ['>'])

def write (e : Element) : List Char := e.opening ++ e.content ++ e.closing

end Element

end Wireframe.Markup
