import Wireframe.Proofs.Reply.SampleMembers
import Wireframe.Proofs.Text.Literal

/-!
# Literals in a sample class

Two kinds of string literals are written from texts of any kind: the default of an input, in the line
that declares it, and the argument of the call that a handler makes. The defaults have their backslashes
and their quotes escaped, the arguments their quotes alone; neither has its line ends escaped.

* `Literal.valueFrom?_quotedSource` — what is read back from characters that are escaped.
* `isLiteralOf_quotedSource_iff` — when a default stands in its line as a literal.
* `Sample.isLiteralOf_clickSource_iff` — when an argument is a literal of the text that is logged.
* `lineEnds_declarations_iff` — when inputs are declared on a line each.
* `Sample.literals_are_sound_iff` — these laws for any inputs and for the handlers of any design.
-/

set_option autoImplicit false

namespace Wireframe

open Text Literal

variable {t : List Char}

/-! ## Escaped backslashes and quotes -/

namespace Literal

/-- A character that is escaped is read back, unless a line feed or a carriage return stands there. -/
theorem valueFrom?_quotedSourceChar (c : Char) (rest : List Char) :
    valueFrom? .plain (quotedSourceChar c ++ rest) = if c = '\n' ∨ c = '\r' then none
      else (valueFrom? .plain rest).map (pointUnits c.toNat ++ ·) := by
  have hslash : stepEscape '\\' = some (.plain, pointUnits '\\'.toNat) := by decide
  have hquote : stepEscape '\'' = some (.plain, pointUnits '\''.toNat) := by decide
  unfold quotedSourceChar
  split
  · subst_vars
    rw [if_neg (by decide)]
    exact valueFrom?_escape hslash rest
  · split
    · subst_vars
      rw [if_neg (by decide)]
      exact valueFrom?_escape hquote rest
    · rename_i hslash hquote
      rw [List.singleton_append, valueFrom?_cons fun _ => hquote, Place.step, stepPlain, if_neg hslash]
      by_cases hline : c = '\n' ∨ c = '\r'
      · rw [if_pos (.inr hline), if_pos hline]
        rfl
      · rw [if_neg (not_or.2 ⟨hquote, hline⟩), if_neg hline]
        rfl

/-- A text whose backslashes and quotes are escaped is read back, unless it has a line feed or a carriage
return. -/
theorem valueFrom?_quotedSource (s rest : List Char) :
    valueFrom? .plain (s.flatMap quotedSourceChar ++ rest) = if '\n' ∈ s ∨ '\r' ∈ s then none
      else (valueFrom? .plain rest).map (units s ++ ·) := by
  induction s with
  | nil =>
    rw [if_neg (by simp)]
    simp [units]
  | cons c s ih =>
    rw [List.flatMap_cons, List.append_assoc, valueFrom?_quotedSourceChar, ih, units_cons]
    by_cases hc : c = '\n' ∨ c = '\r'
    · have hmem : '\n' ∈ c :: s ∨ '\r' ∈ c :: s := by
        rcases hc with rfl | rfl
        · exact .inl List.mem_cons_self
        · exact .inr List.mem_cons_self
      rw [if_pos hc, if_pos hmem]
    · have hmem : ('\n' ∈ c :: s ∨ '\r' ∈ c :: s) ↔ '\n' ∈ s ∨ '\r' ∈ s := by
        rw [not_or] at hc
        simp [Ne.symm hc.1, Ne.symm hc.2]
      rw [if_neg hc]
      by_cases hs : '\n' ∈ s ∨ '\r' ∈ s
      · rw [if_pos hs, if_pos (hmem.2 hs)]
        rfl
      · rw [if_neg hs, if_neg (mt hmem.1 hs)]
        simp [List.append_assoc, Function.comp_def]

end Literal

theorem literalValue?_quotedSource (s : List Char) :
    literalValue? (quotedSource s) = if '\n' ∈ s ∨ '\r' ∈ s then none else some (units s) := by
  have hend : valueFrom? .plain ['\''] = some [] := by decide
  rw [quotedSource, literalValue?, if_pos rfl, valueFrom?_quotedSource, hend, Option.map_some,
    List.append_nil]

theorem isOneLine_quotedSource (s : List Char) : IsOneLine (quotedSource s) ↔ IsOneLine s := by
  have hchar (c : Char) : IsOneLine (quotedSourceChar c) ↔ isLineTerminator c = false := by
    unfold quotedSourceChar
    split
    · subst_vars
      decide
    · split
      · subst_vars
        decide
      · exact isOneLine_singleton c
  have hquote : isLineTerminator '\'' = false := by decide
  rw [quotedSource, isOneLine_cons, and_iff_right hquote, isOneLine_append, isOneLine_singleton,
    and_iff_left hquote, isOneLine_flatMap hchar]

/-- A text stands between quotes as a literal exactly when no line ends in it. -/
theorem isLiteralOf_quotedSource_iff (s : List Char) :
    IsLiteralOf (quotedSource s) s ↔ IsOneLine s := by
  constructor
  · intro h
    exact (isOneLine_quotedSource s).1 h.oneLine
  · intro h
    refine ⟨(isOneLine_quotedSource s).2 h, ?_⟩
    rw [literalValue?_quotedSource, if_neg]
    rintro (hmem | hmem)
    · exact absurd (h _ hmem) (by decide)
    · exact absurd (h _ hmem) (by decide)

/-! ## Escaped quotes -/

namespace Sample

/-- The argument of the call that a handler makes. -/
def clickSource (text : List Char) : List Char := '\'' :: (escapeQuotes text ++ " clicked'".toList)

/-- The text that a handler logs. -/
def clickText (text : List Char) : List Char := text ++ " clicked".toList

/-- Without backslashes it is all the same which of the two escapes is applied. -/
theorem escapeQuotes_eq (h : '\\' ∉ t) : escapeQuotes t = t.flatMap quotedSourceChar := by
  refine List.flatMap_congr ?_
  intro c hc
  have hslash : c ≠ '\\' := fun heq => h (heq ▸ hc)
  rw [quotedSourceChar, if_neg hslash]

theorem clickSource_eq (h : '\\' ∉ t) : clickSource t = quotedSource (clickText t) := by
  have hend : " clicked'".toList = " clicked".toList.flatMap quotedSourceChar ++ ['\''] := by decide
  rw [clickSource, quotedSource, clickText, escapeQuotes_eq h, hend, List.flatMap_append,
    List.append_assoc]

/-- An argument pays for the text, but for half a unit at every backslash. -/
theorem totalWeight_escapeQuotes (t : List Char) :
    totalWeight (escapeQuotes t) + t.count '\\' = 2 * (units t).length := by
  induction t with
  | nil => rfl
  | cons c t ih =>
    have hchar : totalWeight (if c = '\'' then ['\\', '\''] else [c]) + [c].count '\\' =
        2 * (pointUnits c.toNat).length := by
      by_cases hquote : c = '\''
      · subst hquote
        decide
      · by_cases hslash : c = '\\'
        · subst hslash
          decide
        · rw [if_neg hquote, List.count_singleton, if_neg (by simpa using hslash)]
          simp [totalWeight, weight, hquote, hslash]
    have hcount : (c :: t).count '\\' = [c].count '\\' + t.count '\\' := by
      rw [← List.count_append, List.singleton_append]
    have hunits : (units (c :: t)).length = (pointUnits c.toNat).length + (units t).length := by
      rw [units_cons, List.length_append]
    have hsource : escapeQuotes (c :: t) = (if c = '\'' then ['\\', '\''] else [c]) ++ escapeQuotes t :=
      List.flatMap_cons
    rw [hsource, totalWeight_append, hcount, hunits]
    omega

/-- An argument whose value is the text that is logged has no backslash to begin with. -/
theorem not_mem_of_literalValue? (h : literalValue? (clickSource t) = some (units (clickText t))) :
    '\\' ∉ t := by
  have hend : totalWeight " clicked'".toList = 2 * (units " clicked".toList).length + 1 := by decide
  have hpaid := two_mul_length_valueFrom? (p := .plain) (s := escapeQuotes t ++ " clicked'".toList) h
  have htext := totalWeight_escapeQuotes t
  have hcredit : Place.plain.credit = 0 := rfl
  rw [totalWeight_append, hend, clickText, units_append, List.length_append, hcredit] at hpaid
  -- the value is as long as the text, and every backslash would leave half a unit of it unpaid
  rw [← List.count_eq_zero]
  omega

/-- The argument of a call is a literal of the text that is logged exactly when the text of the button
has no backslash and no line ends in it. -/
theorem isLiteralOf_clickSource_iff (t : List Char) :
    IsLiteralOf (clickSource t) (clickText t) ↔ '\\' ∉ t ∧ IsOneLine t := by
  have hrest : IsOneLine " clicked".toList := by decide
  constructor
  · intro h
    have hslash := not_mem_of_literalValue? h.value
    rw [clickSource_eq hslash, isLiteralOf_quotedSource_iff, clickText, isOneLine_append] at h
    exact ⟨hslash, h.1⟩
  · rintro ⟨hslash, hline⟩
    rw [clickSource_eq hslash, isLiteralOf_quotedSource_iff, clickText, isOneLine_append]
    exact ⟨hline, hrest⟩

end Sample

/-! ## Lines of declarations -/

/-- Between texts one below the other there is one line end each. -/
theorem lineEnds_joinLines (parts : List (List Char)) :
    lineEnds (joinLines parts) = lineEnds parts.flatten + (parts.length - 1) := by
  induction parts with
  | nil => rfl
  | cons part rest ih =>
    cases rest with
    | nil => simp [joinLines_singleton]
    | cons next rest =>
      have hfeed : isLineTerminator '\n' = true := by decide
      have hjoined : lineEnds (joinLines (part :: next :: rest)) =
          lineEnds part + (lineEnds (joinLines (next :: rest)) + 1) := by
        rw [joinLines_cons _ (List.cons_ne_nil _ _), lineEnds, List.countP_append,
          List.countP_cons_of_pos hfeed]
        rfl
      have hflat : lineEnds (part :: next :: rest).flatten =
          lineEnds part + lineEnds (next :: rest).flatten := List.countP_append
      rw [hjoined, ih, hflat]
      simp only [List.length_cons]
      omega

/-- Inputs are declared on a line each exactly when no line ends within a declaration. -/
theorem lineEnds_declarations_iff (indent : List Char) (inputs : List InferredInput) :
    lineEnds (declarations indent inputs) = inputs.length - 1 ↔
      ∀ item ∈ inputs, IsOneLine (item.declaration indent) := by
  have hsum := lineEnds_joinLines (inputs.map (·.declaration indent))
  rw [List.length_map] at hsum
  rw [declarations, hsum, Nat.add_eq_right, ← isOneLine_iff, isOneLine_flatten, List.forall_mem_map]

/-- A line ends within a declaration where one does in the indent, in the name, or in a default that is a
text. -/
theorem isOneLine_declaration_iff (indent : List Char) (item : InferredInput) :
    IsOneLine (item.declaration indent) ↔ IsOneLine indent ∧ IsOneLine item.name.toList ∧
      ∀ s, item.default = some (.text s) → IsOneLine s.toList := by
  have hdecorator : IsOneLine "@Input() ".toList := by decide
  have hcolon : IsOneLine ": ".toList := by decide
  have htype : IsOneLine item.type.text.toList := by
    cases item.type <;> decide
  have hequals : IsOneLine " = ".toList := by decide
  have hend : IsOneLine [';'] := by decide
  have hdefault : IsOneLine (defaultSource item.default) ↔
      ∀ s, item.default = some (.text s) → IsOneLine s.toList := by
    cases item.default with
    | none => exact iff_of_true (by decide) nofun
    | some value =>
      cases value with
      | text s => simp [defaultSource, isOneLine_quotedSource]
      | flag b =>
        apply iff_of_true
        · cases b <;> decide
        · nofun
  simp only [InferredInput.declaration, isOneLine_append, hdecorator, hcolon, htype, hequals, hend,
    hdefault, and_true, and_assoc]

namespace Sample

/-! ## The literals of a class -/

/-- The line of a handler with its call. -/
def clickLine (text : String) : List Char :=
  "    console.log(".toList ++ clickSource text.toList ++ ");".toList

theorem standsIn_handlerMethod (name text : String) :
    StandsIn (clickLine text) (handlerMethod name text) := by
  have hline : clickLine text =
      "    console.log('".toList ++ escapeQuotes text.toList ++ " clicked');".toList := by
    have hopen : "    console.log(".toList ++ ['\''] = "    console.log('".toList := by decide
    have hclose : " clicked'".toList ++ ");".toList = " clicked');".toList := by decide
    have happend (a b c d : List Char) :
        a ++ '\'' :: (b ++ c) ++ d = (a ++ ['\'']) ++ b ++ (c ++ d) := by
      simp
    exact (happend _ _ _ _).trans
      (congrArg₂ (fun a b => a ++ escapeQuotes text.toList ++ b) hopen hclose)
  rw [handlerMethod, hline]
  apply standsIn_joinLines
  simp

/-- **Literals are sound unless a line ends in their texts or a button has a backslash.** For any inputs
and any indent, each declaration stands on lines of its own and ends with its default; a default that is
a text is a literal of that text on one line if and only if no line ends in the text, and the
declarations are on a line each if and only if no line ends in the indent, in a name or in such a
default. For any design, every handler in the class has a line with its call, whose argument is a literal
of the text of its button and ` clicked` if and only if that text has no backslash and no line ends in
it. -/
theorem literals_are_sound_iff (indent : List Char) (inputs : List InferredInput) (d : Design)
    (inferred : Option InferredInputs) :
    (∀ item ∈ inputs, ∀ s, item.default = some (.text s) →
      StandsIn (item.declaration indent) (declarations indent inputs) ∧
        defaultSource item.default ++ [';'] <:+ item.declaration indent ∧
        (IsLiteralOf (defaultSource item.default) s.toList ↔ IsOneLine s.toList)) ∧
    (lineEnds (declarations indent inputs) = inputs.length - 1 ↔
      ∀ item ∈ inputs, IsOneLine indent ∧ IsOneLine item.name.toList ∧
        ∀ s, item.default = some (.text s) → IsOneLine s.toList) ∧
    ∀ name text, (name, text) ∈ handlers d.components →
      StandsIn (handlerMethod name text) (members d (active inferred)) ∧
        StandsIn (clickLine text) (handlerMethod name text) ∧
        (IsLiteralOf (clickSource text.toList) (clickText text.toList) ↔
          '\\' ∉ text.toList ∧ IsOneLine text.toList) := by
  refine ⟨?_, ?_, ?_⟩
  · intro item hitem s hs
    have hliteral : IsLiteralOf (defaultSource item.default) s.toList ↔ IsOneLine s.toList := by
      rw [hs]
      exact isLiteralOf_quotedSource_iff s.toList
    have hend : defaultSource item.default ++ [';'] <:+ item.declaration indent := by
      rw [InferredInput.declaration, List.append_assoc]
      exact List.suffix_append _ _
    exact ⟨standsIn_joinLines (List.mem_map_of_mem hitem), hend, hliteral⟩
  · rw [lineEnds_declarations_iff]
    apply forall₂_congr
    intro item _
    exact isOneLine_declaration_iff indent item
  · intro name text hhandler
    have hmember := handler_mem_classMembers hhandler inferred
    exact ⟨standsIn_members hmember, standsIn_handlerMethod name text, isLiteralOf_clickSource_iff _⟩

/-- An input whose default has two lines. -/
def twoLineInput : InferredInput where
  name := "title"
  type := .string
  default := some (.text "a\nb")
  sourceProperty := some "Title"
  sourceType := some .text

/-- A screen with a button that is named by a path. -/
def pathDesign : Design where
  screenName := "Login"
  flow := .vertical
  components := [.button "primary" "C:\\temp"]
  tokens := {}

/-- **A line feed breaks a default, and a backslash changes what is logged.** The declaration of the
input goes over two lines, and its default is no literal at all; the argument of the call is a literal,
in which the backslash and the `t` stand for a tab. -/
theorem line_feed_and_backslash_stand_raw :
    declarations memberIndent [twoLineInput] = "  @Input() title: string = 'a\nb';".toList ∧
      literalValue? (defaultSource twoLineInput.default) = none ∧
      members pathDesign none =
        "  onCTempClick() \x7b\n    console.log('C:\\temp clicked');\n  \x7d".toList ∧
      literalValue? (clickSource "C:\\temp".toList) = some (units "C:\temp clicked".toList) ∧
      ¬IsLiteralOf (clickSource "C:\\temp".toList) (clickText "C:\\temp".toList) := by
  decide

end Sample

end Wireframe
