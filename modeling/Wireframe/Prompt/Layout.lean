import Wireframe.Layout.Archetype
import Wireframe.Text.Lines

/-!
# The prompt for a layout

`layoutPrompt` writes the instructions and the request by which a backend is asked for a layout
document. What it may choose from is listed from the tables that the answer is judged by.
-/

namespace Wireframe.Prompt

/-- Instructions and a request. -/
structure PromptPair where
  system : String
  user : String
  deriving DecidableEq, Repr

def textOfLines (lines : List String) : String := String.intercalate "\n" lines

/-- What a layout backend is told about its task. -/
def layoutInstructions : String := textOfLines [
  "You are a Layout Intelligence Agent inside a component instantiation system.",
  "Your output will be parsed by a backend server and rendered directly on a design canvas.",
  "",
  "YOUR RESPONSIBILITY:",
  "Generate a STRUCTURED LAYOUT JSON only.",
  "",
  "SYSTEM CONTEXT (DO NOT EXPLAIN):",
  "- This is a design-first system.",
  "- Code generation happens later.",
  "- Your output is visual layout structure only.",
  "- A design validator will run after you.",
  "- Only allowed design-system components may be used.",
  "",
  "HARD CONSTRAINTS (MANDATORY):",
  "- Output JSON ONLY",
  "- No explanations",
  "- No markdown",
  "- No comments",
  "- No colors",
  "- No tokens",
  "- No typography styles",
  "- No code",
  "- No assumptions beyond layout structure",
  "",
  "If the prompt is ambiguous, choose the SAFEST, MOST COMMON layout for that app type.",
  ""]

/-- The applications that have a row of their own, in order. -/
def applicationList : String := commaList (knownRows.map (·.application))

def archetypeLine (c : ArchetypeConfig) : String :=
  let sections := String.intercalate " + " c.sections
  s!"- {c.name}: {sections} ({c.canvasType.text}, {c.layoutDirection})"

/-- A line about the archetypes expected of an application. -/
def rowLine (r : ArchetypeRow) : String := s!"- {r.application} → {r.web} (web) | {r.mobile} (mobile)"

/-- The form of a layout document. -/
def layoutSchemaLines : List String := [
  "\x7b",
  "  \"screenType\": \"web\" | \"mobile\",",
  "  \"application_type\": \"string\",",
  "  \"layout_archetype\": \"string\",",
  "  \"canvas_size\": \x7b \"width\": number, \"height\": number \x7d,",
  "  \"sections\": [",
  "    \x7b",
  "      \"section_name\": \"string\",",
  "      \"layout_direction\": \"vertical\" | \"horizontal\" | \"grid\",",
  "      \"components\": [",
  "        \x7b",
  "          \"componentKey\": \"one_of_allowed_keys_only\",",
  "          \"text\": \"optional_text_content_for_text_components\"",
  "        \x7d",
  "      ]",
  "    \x7d",
  "  ]",
  "\x7d"]

/-- What a layout backend is asked, line by line, for a description of a screen. -/
def layoutRequestLines (description : String) : List String :=
  ["STEP 1 - CLASSIFICATION",
    "From the user prompt, internally determine:",
    s!"- application_type ({applicationList})",
    "- screen_type (web or mobile)",
    "",
    "STEP 2 - CANVAS & RESPONSIVE RULES",
    "If screen_type = web:",
    "- Use desktop-sized frame (" ++ CanvasType.desktop.size.text ++ ")",
    "- Allow horizontal layouts",
    "- Support multi-column sections",
    "- Enable grid layouts",
    "",
    "If screen_type = mobile:",
    "- Use mobile-sized frame (" ++ CanvasType.mobile.size.text ++ ")",
    "- Use vertical stacked sections only",
    "- No side-by-side layouts",
    "- Single column only",
    "",
    "STEP 3 - LAYOUT ARCHETYPE SELECTION",
    "Choose a layout pattern based on application_type + screen_type combination.",
    "",
    "Available Archetypes:"] ++
  archetypes.map archetypeLine ++
  ["",
    "MAPPING RULES:"] ++
  knownRows.map rowLine ++
  ["",
    "STEP 4 - LAYOUT JSON GENERATION",
    "Output a normalized JSON describing:",
    "- screen frame with proper canvas size",
    "- sections based on selected archetype",
    "- component hierarchy within sections",
    "- layout direction per section",
    "",
    "Use ONLY allowed component keys from the design system.",
    "Do NOT invent new components.",
    "",
    "ALLOWED COMPONENT KEYS:"] ++
  Catalog.keys.map ("- " ++ ·) ++
  ["",
    "JSON SCHEMA (STRICT):"] ++
  layoutSchemaLines ++
  ["",
    s!"USER REQUEST: {description}",
    "",
    "OUTPUT ONLY JSON:"]

/-- The prompt for the layout of a described screen. -/
def layoutPrompt (description : String) : PromptPair where
  system := layoutInstructions
  user := textOfLines (layoutRequestLines (String.ofList (Text.trim description.toList)))

end Wireframe.Prompt
