import Mathlib.Logic.Function.Basic
import Mathlib.Tactic.SplitIfs
import Wireframe.Markup.Render
import Wireframe.Proofs.Naming

/-!
# One casing from the other

A name in either casing is one word again, so casing it anew changes at most its first letter. Names in
camel case and in Pascal case differ in nothing else, and two labels collide in one casing exactly when
they collide in the other.

* `Naming.words_of_isAsciiAlnum` — a name is its own only word.
* `Naming.toList_camelCase`, `Naming.toList_pascalCase` — each casing of a text from the other.
* `modelName_eq_iff`, `handlerName_eq_iff` — when two labels or texts share a name.
* `casing_is_canonical` — how the casings compose, and when two labels share the name of their
  value and two texts the name of their handler.
-/

set_option autoImplicit false

namespace Wireframe

open Text

namespace Naming

/-! ## First letters -/

/-- The case of a letter forgets what case it was put in before. -/
theorem lowerAscii_upperAscii (c : Char) : lowerAscii (upperAscii c) = lowerAscii c := by
  apply Char.toNat_inj.1
  simp only [toNat_lowerAscii, toNat_upperAscii]
  split_ifs <;> omega

theorem upperAscii_lowerAscii (c : Char) : upperAscii (lowerAscii c) = upperAscii c := by
  apply Char.toNat_inj.1
  simp only [toNat_lowerAscii, toNat_upperAscii]
  split_ifs <;> omega

theorem upperAscii_upperAscii (c : Char) : upperAscii (upperAscii c) = upperAscii c := by
  apply Char.toNat_inj.1
  simp only [toNat_upperAscii]
  split_ifs <;> omega

@[simp] theorem decapitalize_capitalize (w : List Char) :
    decapitalize (capitalize w) = decapitalize w := by
  cases w with
  | nil => rfl
  | cons c rest => rw [capitalize, decapitalize, decapitalize, lowerAscii_upperAscii]

@[simp] theorem capitalize_decapitalize (w : List Char) :
    capitalize (decapitalize w) = capitalize w := by
  cases w with
  | nil => rfl
  | cons c rest => rw [decapitalize, capitalize, capitalize, upperAscii_lowerAscii]

@[simp] theorem capitalize_capitalize (w : List Char) :
    capitalize (capitalize w) = capitalize w := by
  cases w with
  | nil => rfl
  | cons c rest => rw [capitalize, capitalize, upperAscii_upperAscii]

/-! ## Words and names -/

/-- A text of ASCII letters and digits is its own only word. -/
theorem words_of_isAsciiAlnum {s : List Char} (h : ∀ c ∈ s, isAsciiAlnum c = true) (hne : s ≠ []) :
    words s = [s] := by
  fun_induction words s with
  | case1 => exact absurd rfl hne
  | case2 c hc => rfl
  | case3 c hc => exact absurd (h c List.mem_cons_self) hc
  | case4 c d rest hc hd ih =>
    rw [ih (List.forall_mem_cons.1 h).2 (List.cons_ne_nil _ _), consWord]
  | case5 c d rest hc hd ih => exact absurd (h d (List.mem_cons_of_mem c List.mem_cons_self)) hd
  | case6 c d rest hc ih => exact absurd (h c List.mem_cons_self) hc

/-- The words of a text in camel case are the same words in Pascal case, with a small letter first. -/
theorem joinCamel_words (s : List Char) :
    joinCamel (words s) = decapitalize (joinPascal (words s)) := by
  rcases words_cases s with ⟨hnone, -⟩ | ⟨c, w, ws, hwords, -⟩
  · rw [hnone]
    rfl
  · rw [hwords, joinCamel, joinPascal, List.flatMap_cons, ← decapitalize_capitalize (c :: w)]
    rfl

/-- The other way round, with a capital first. -/
theorem joinPascal_words (s : List Char) :
    joinPascal (words s) = capitalize (joinCamel (words s)) := by
  rcases words_cases s with ⟨hnone, -⟩ | ⟨c, w, ws, hwords, -⟩
  · rw [hnone]
    rfl
  · rw [hwords, joinCamel, joinPascal, List.flatMap_cons, ← capitalize_decapitalize (c :: w)]
    rfl

/-- A name that is put in Pascal case has its first letter changed, if anything. -/
theorem joinPascal_words_of_isAsciiAlnum {s : List Char} (h : ∀ c ∈ s, isAsciiAlnum c = true) :
    joinPascal (words s) = capitalize s := by
  cases s with
  | nil => rfl
  | cons c rest =>
    rw [words_of_isAsciiAlnum h (List.cons_ne_nil _ _), joinPascal, List.flatMap_singleton]

/-! ## The two casings of a text -/

theorem toList_camelCase (s : String) :
    (camelCase s).toList = decapitalize (pascalCase s).toList := by
  rw [camelCase, pascalCase, String.toList_ofList, String.toList_ofList, joinCamel_words]

theorem toList_pascalCase (s : String) :
    (pascalCase s).toList = capitalize (camelCase s).toList := by
  rw [camelCase, pascalCase, String.toList_ofList, String.toList_ofList, joinPascal_words]

theorem toList_pascalCase_of_isAsciiAlnum {s : String} (h : ∀ c ∈ s.toList, isAsciiAlnum c = true) :
    (pascalCase s).toList = capitalize s.toList := by
  rw [pascalCase, String.toList_ofList, joinPascal_words_of_isAsciiAlnum h]

@[simp] theorem pascalCase_pascalCase (s : String) : pascalCase (pascalCase s) = pascalCase s := by
  apply String.toList_injective
  rw [toList_pascalCase_of_isAsciiAlnum fun c hc => isAsciiAlnum_of_mem_pascalCase hc,
    toList_pascalCase s, capitalize_capitalize]

@[simp] theorem pascalCase_camelCase (s : String) : pascalCase (camelCase s) = pascalCase s := by
  apply String.toList_injective
  rw [toList_pascalCase_of_isAsciiAlnum fun c hc => isAsciiAlnum_of_mem_camelCase hc,
    toList_pascalCase s]

/-- Two texts that are one in either casing are one in the other. -/
theorem camelCase_eq_iff {s t : String} : camelCase s = camelCase t ↔ pascalCase s = pascalCase t := by
  constructor
  · intro h
    rw [← pascalCase_camelCase s, h, pascalCase_camelCase]
  · intro h
    apply String.toList_injective
    rw [toList_camelCase, h, toList_camelCase]

@[simp] theorem camelCase_pascalCase (s : String) : camelCase (pascalCase s) = camelCase s :=
  camelCase_eq_iff.2 (pascalCase_pascalCase s)

@[simp] theorem camelCase_camelCase (s : String) : camelCase (camelCase s) = camelCase s :=
  camelCase_eq_iff.2 (pascalCase_camelCase s)

theorem words_toList (s : String) : words s.toList = (splitWords s).map String.toList := by
  simp [splitWords, Function.comp_def]

theorem camelCase_factorsThrough : camelCase.FactorsThrough splitWords := by
  intro s t h
  rw [camelCase, camelCase, words_toList, words_toList, h]

theorem pascalCase_factorsThrough : pascalCase.FactorsThrough splitWords := by
  intro s t h
  rw [pascalCase, pascalCase, words_toList, words_toList, h]

/-- A text has an empty name only for want of words. -/
theorem pascalCase_eq_empty_iff {s : String} : pascalCase s = "" ↔ splitWords s = [] := by
  rw [← String.toList_eq_nil_iff, pascalCase, String.toList_ofList, splitWords, List.map_eq_nil_iff]
  rcases words_cases s.toList with ⟨hnone, -⟩ | ⟨c, w, ws, hwords, -⟩
  · rw [hnone]
    exact iff_of_true rfl rfl
  · rw [hwords]
    exact iff_of_false (List.cons_ne_nil _ _) (List.cons_ne_nil _ _)

end Naming

/-! ## Names of members -/

open Naming

theorem nameOr_eq_iff {fallback p q : String} (h : fallback ≠ "") :
    nameOr fallback p = nameOr fallback q ↔
      p = q ∨ (p = "" ∧ q = fallback) ∨ (q = "" ∧ p = fallback) := by
  unfold nameOr
  split_ifs with hp hq hq <;> grind

/-- The fallbacks of the two casings are the same word. -/
theorem nameOr_camelCase (s : String) :
    nameOr "field" (camelCase s) = camelCase (nameOr "Field" (pascalCase s)) := by
  have hempty : camelCase s = "" ↔ pascalCase s = "" := camelCase_eq_iff (t := "")
  unfold nameOr
  by_cases hs : pascalCase s = ""
  · rw [if_pos (hempty.2 hs), if_pos hs]
    decide
  · rw [if_neg (mt hempty.1 hs), if_neg hs, camelCase_pascalCase]

theorem pascalCase_nameOr (s : String) :
    pascalCase (nameOr "Field" (pascalCase s)) = nameOr "Field" (pascalCase s) := by
  unfold nameOr
  split_ifs
  · decide
  · exact pascalCase_pascalCase s

/-- Two labels share the name of a value when they share a name in Pascal case, or one of them has none
and the other is `Field`. -/
theorem modelName_eq_iff {a b : String} : modelName a = modelName b ↔
    pascalCase a = pascalCase b ∨ (pascalCase a = "" ∧ pascalCase b = "Field") ∨
      (pascalCase b = "" ∧ pascalCase a = "Field") := by
  rw [modelName, modelName, String.append_left_inj, nameOr_camelCase, nameOr_camelCase,
    camelCase_eq_iff, pascalCase_nameOr, pascalCase_nameOr, nameOr_eq_iff (by decide)]

/-- For handlers the other is `Button`. -/
theorem handlerName_eq_iff {a b : String} : handlerName a = handlerName b ↔
    pascalCase a = pascalCase b ∨ (pascalCase a = "" ∧ pascalCase b = "Button") ∨
      (pascalCase b = "" ∧ pascalCase a = "Button") := by
  rw [handlerName, handlerName, String.append_left_inj, String.append_right_inj,
    nameOr_eq_iff (by decide)]

/-- A text without words is given, as a label or as the text of a button, the name that another text
spells out. -/
def TakesNameOf (a b : String) : Prop :=
  splitWords a = [] ∧ (pascalCase b = "Field" ∨ pascalCase b = "Button")

/-- **A text has one name, in two casings.** Both casings leave a name in the same casing as it is, and
either casing of a text can be had from the other; they depend on nothing but the words of the text, and
two texts have the same name in camel case if and only if they have in Pascal case. So two labels share
the name of a value exactly when the same texts share the name of a handler; the exceptions are a text
without words beside one that spells out the fallback of either kind of name, and there it never holds. -/
theorem casing_is_canonical :
    (∀ s, camelCase (camelCase s) = camelCase s ∧ pascalCase (pascalCase s) = pascalCase s) ∧
    (∀ s, camelCase (pascalCase s) = camelCase s ∧ pascalCase (camelCase s) = pascalCase s) ∧
    camelCase.FactorsThrough splitWords ∧ pascalCase.FactorsThrough splitWords ∧
    (∀ s t, camelCase s = camelCase t ↔ pascalCase s = pascalCase t) ∧
    ∀ a b, (modelName a = modelName b ↔ handlerName a = handlerName b) ↔
      ¬TakesNameOf a b ∧ ¬TakesNameOf b a := by
  refine ⟨fun s => ⟨camelCase_camelCase s, pascalCase_pascalCase s⟩,
    fun s => ⟨camelCase_pascalCase s, pascalCase_camelCase s⟩, camelCase_factorsThrough,
    pascalCase_factorsThrough, fun s t => camelCase_eq_iff, fun a b => ?_⟩
  have hfield : "Field" ≠ "" := by decide
  have hbutton : "Button" ≠ "" := by decide
  have hne : "Field" ≠ "Button" := by decide
  rw [modelName_eq_iff, handlerName_eq_iff, TakesNameOf, TakesNameOf, ← pascalCase_eq_empty_iff,
    ← pascalCase_eq_empty_iff]
  grind

/-- The labels `?` and `field` share the name of a value, but not the name of a handler. -/
example : modelName "?" = modelName "field" ∧ handlerName "?" ≠ handlerName "field" := by decide

end Wireframe
