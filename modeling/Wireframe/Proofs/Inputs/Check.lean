import Wireframe.Proofs.Inputs.Inference
import Wireframe.Proofs.Json.Order

/-!
# What the check of inputs lets pass

Inputs are sound when their names are distinct identifiers and every binding has one of the names as a
word of its own. The check asks for less: a line feed may follow a name, and a name may be found inside
a longer word.

* `mem_splitOnP_iff` — the runs of a text, by what stands on both sides of them.
* `identifierTokens` — the identifiers among the words of an expression.
* `InferredInputs.IsSound`, `InferredInputs.deservedErrors` — sound inputs, and what is wrong with others.
* `InferredInputs.isValid_iff` — what the check accepts.
* `InferredInputs.check_iff` — what it finds, and when that is all there is to find.
* `InferredInputs.unsound_but_accepted` — inputs that it should not accept.
* `isSound_inferInputs` — no such inputs are inferred from a node.
-/

set_option autoImplicit false

namespace Wireframe

open Text

/-! ## Words of an expression -/

section Runs

variable {p : Char → Bool} {s w acc : List Char}

/-- A run of a text, of whose first run the part `acc` has been read, in reverse. -/
theorem bounds_of_mem_splitOnPPrepend (hacc : ∀ c ∈ acc, p c = false)
    (h : w ∈ s.splitOnPPrepend p acc) : (∀ c ∈ w, p c = false) ∧
      ∃ before after, acc.reverse ++ s = before ++ w ++ after ∧
        (∀ c ∈ before.getLast?, p c = true) ∧ ∀ c ∈ after.head?, p c = true := by
  have hreverse : ∀ c ∈ acc.reverse, p c = false := fun c hc => hacc c (List.mem_reverse.1 hc)
  induction s generalizing acc with
  | nil =>
    obtain rfl := List.mem_singleton.1 h
    exact ⟨hreverse, [], [], rfl, nofun, nofun⟩
  | cons x s ih =>
    cases hx : p x with
    | true =>
      rw [List.splitOnPPrepend_cons_pos hx] at h
      rcases List.mem_cons.1 h with rfl | hrest
      · refine ⟨hreverse, [], x :: s, rfl, nofun, fun c hc => ?_⟩
        rwa [← Option.some.inj hc]
      · obtain ⟨hw, before, after, hs, hbefore, hafter⟩ :=
          ih (List.forall_mem_nil _) hrest (List.forall_mem_nil _)
        refine ⟨hw, acc.reverse ++ x :: before, after, ?_, fun c hc => ?_, hafter⟩
        · rw [List.reverse_nil, List.nil_append] at hs
          rw [hs]
          simp
        · have hend : (acc.reverse ++ x :: before).getLast? = some (before.getLast?.getD x) := by
            rw [List.getLast?_append, List.getLast?_cons, Option.some_or]
          rw [hend] at hc
          obtain rfl := Option.some.inj hc
          cases hlast : before.getLast? with
          | none => exact hx
          | some d => exact hbefore d hlast
    | false =>
      rw [List.splitOnPPrepend_cons_neg hx] at h
      have hgrown : ∀ c ∈ x :: acc, p c = false := List.forall_mem_cons.2 ⟨hx, hacc⟩
      have hrest := ih hgrown h fun c hc => hgrown c (List.mem_reverse.1 hc)
      rwa [List.reverse_cons, List.append_assoc, List.singleton_append] at hrest

/-- A run of a text stands between two separators, or at an end of the text. -/
theorem mem_splitOnP_iff : w ∈ s.splitOnP p ↔ (∀ c ∈ w, p c = false) ∧
    ∃ before after, s = before ++ w ++ after ∧
      (∀ c ∈ before.getLast?, p c = true) ∧ ∀ c ∈ after.head?, p c = true := by
  constructor
  · exact fun h => bounds_of_mem_splitOnPPrepend (List.forall_mem_nil _) h
  · rintro ⟨hw, before, after, rfl, hbefore, hafter⟩
    have hfront : w ∈ (w ++ after).splitOnP p := by
      cases after with
      | nil =>
        rw [List.append_nil, List.splitOnP_eq_singleton hw]
        exact List.mem_singleton_self w
      | cons d after =>
        rw [List.splitOnP_append_cons _ _ (hafter d rfl), List.splitOnP_eq_singleton hw]
        exact List.mem_cons_self
    rw [List.append_assoc]
    rcases List.eq_nil_or_concat before with rfl | ⟨init, d, rfl⟩
    · exact hfront
    · rw [List.concat_eq_append] at hbefore ⊢
      rw [List.append_assoc, List.singleton_append,
        List.splitOnP_append_cons _ _ (hbefore d List.getLast?_concat)]
      exact List.mem_append_right _ hfront

end Runs

variable {isPart : Char → Bool} {name : String} {names : List String} {i : InferredInputs}

/-- The identifiers among the words of an expression. Which characters words consist of is left open:
those of ASCII identifiers, or all that a language takes for letters. -/
def identifierTokens (isPart : Char → Bool) (expression : String) : List (List Char) :=
  (expression.toList.splitOnP fun c => !isPart c).filter Naming.isIdentifierText

/-- Whether one of the names is a word of an expression. -/
def refersToAny (isPart : Char → Bool) (names : List String) (expression : String) : Bool :=
  names.any fun name => (identifierTokens isPart expression).contains name.toList

theorem infix_of_mem_identifierTokens {expression : String}
    (h : name.toList ∈ identifierTokens isPart expression) :
    name.toList <:+: expression.toList := by
  obtain ⟨-, before, after, hexpression, -⟩ := mem_splitOnP_iff.1 (List.mem_filter.1 h).1
  exact ⟨before, after, hexpression.symm⟩

theorem refersToAny_iff {expression : String} : refersToAny isPart names expression = true ↔
    ∃ name ∈ names, name.toList ∈ identifierTokens isPart expression := by
  simp only [refersToAny, List.any_eq_true, List.contains_iff_mem]

theorem mentionsAny_iff {expression : String} : mentionsAny names expression = true ↔
    ∃ name ∈ names, name.toList <:+: expression.toList := by
  simp only [mentionsAny, List.any_eq_true, occursIn_iff]

theorem mentionsAny_of_refersToAny {expression : String}
    (h : refersToAny isPart names expression = true) : mentionsAny names expression = true := by
  obtain ⟨name, hname, htoken⟩ := refersToAny_iff.1 h
  exact mentionsAny_iff.2 ⟨name, hname, infix_of_mem_identifierTokens htoken⟩

/-! ## Reports on the members of a list -/

section Reports

variable {α : Type} {f g : α → Bool} {l : List α}

theorem filter_not_sublist (h : ∀ a, g a = true → f a = true) (l : List α) :
    (l.filter fun a => !f a).Sublist (l.filter fun a => !g a) := by
  refine List.monotone_filter_right l fun a ha => ?_
  rw [Bool.not_eq_true', ← Bool.not_eq_true] at ha ⊢
  exact fun hg => ha (h a hg)

/-- A weaker check turns down as many as a stronger one exactly when they agree on the list. -/
theorem length_filter_not_eq_iff (h : ∀ a, g a = true → f a = true) :
    (l.filter fun a => !f a).length = (l.filter fun a => !g a).length ↔
      ∀ a ∈ l, f a = true → g a = true := by
  constructor
  · intro hlength a ha hf
    have heq := (filter_not_sublist h l).eq_of_length hlength
    by_contra hg
    have hmem : a ∈ l.filter fun a => !g a := List.mem_filter.2 ⟨ha, by simpa using hg⟩
    rw [← heq, List.mem_filter, hf] at hmem
    exact absurd hmem.2 (by decide)
  · intro hagree
    refine congrArg List.length (List.filter_congr fun a ha => congrArg Bool.not ?_)
    rw [Bool.eq_iff_iff]
    exact ⟨hagree a ha, h a⟩

end Reports

/-! ## The check -/

namespace InferredInputs

/-- Sound inputs: distinct identifiers, and bindings that refer to them by a word of their own. -/
structure IsSound (isPart : Char → Bool) (i : InferredInputs) : Prop where
  identifiers : ∀ name ∈ i.names, Naming.isIdentifierText name.toList = true
  distinct : i.names.Nodup
  referring : ∀ b ∈ i.bindings, ∃ name ∈ i.names,
    name.toList ∈ identifierTokens isPart b.expression

/-- Everything that keeps inputs from being sound: names that are no identifiers, names that occur more
than once, and bindings that refer to none. -/
def deservedErrors (isPart : Char → Bool) (i : InferredInputs) : List String :=
  ((i.names.filter fun name => !Naming.isIdentifierText name.toList).map fun name =>
      s!"Invalid input name: {name}") ++ i.duplicateErrors ++
    (i.bindings.filter fun b => !refersToAny isPart i.names b.expression).map fun b =>
      s!"Binding on {b.target} does not reference a declared input"

/-- Inputs that are as they look to the check: no name is an identifier followed by a line feed, and no
binding has names within longer words only. -/
structure IsPlainlyNamed (isPart : Char → Bool) (i : InferredInputs) : Prop where
  ended : ∀ name ∈ i.names, ∀ t, Naming.isIdentifierText t = true → name.toList ≠ t ++ ['\n']
  apart : ∀ b ∈ i.bindings, (∃ name ∈ i.names, name.toList <:+: b.expression.toList) →
    ∃ name ∈ i.names, name.toList ∈ identifierTokens isPart b.expression

theorem mem_duplicateNames_iff : name ∈ i.duplicateNames ↔ 1 < i.names.count name := by
  rw [duplicateNames, mem_sortedDistinct, List.mem_filter, decide_eq_true_eq]
  exact and_iff_right_of_imp fun h => List.count_pos_iff.1 (by omega)

theorem duplicateNames_eq_nil_iff : i.duplicateNames = [] ↔ i.names.Nodup := by
  rw [List.nodup_iff_count_le_one, List.eq_nil_iff_forall_not_mem]
  exact forall_congr' fun name => by rw [mem_duplicateNames_iff, Nat.not_lt]

theorem duplicateErrors_eq_nil_iff : i.duplicateErrors = [] ↔ i.names.Nodup := by
  rw [← duplicateNames_eq_nil_iff, duplicateErrors]
  split
  · rename_i h
    exact iff_of_true rfl (List.isEmpty_iff.1 h)
  · rename_i h
    exact iff_of_false (List.cons_ne_nil _ _) fun hnil => h (List.isEmpty_iff.2 hnil)

/-- What the check accepts. -/
theorem isValid_iff : i.isValid = true ↔
    (∀ name ∈ i.names, Naming.isIdentifierText name.toList = true ∨
      ∃ t, Naming.isIdentifierText t = true ∧ name.toList = t ++ ['\n']) ∧
    i.names.Nodup ∧
    ∀ b ∈ i.bindings, ∃ name ∈ i.names, name.toList <:+: b.expression.toList := by
  rw [isValid, List.isEmpty_iff, errors, List.append_eq_nil_iff, List.append_eq_nil_iff, and_assoc,
    duplicateErrors_eq_nil_iff, nameErrors, bindingErrors, List.map_eq_nil_iff, List.map_eq_nil_iff,
    List.filter_eq_nil_iff, List.filter_eq_nil_iff]
  simp only [Bool.not_eq_true', Bool.not_eq_false, Naming.isIdentifier_iff, mentionsAny_iff]

theorem deservedErrors_eq_nil_iff : i.deservedErrors isPart = [] ↔ i.IsSound isPart := by
  rw [deservedErrors, List.append_eq_nil_iff, List.append_eq_nil_iff, and_assoc,
    duplicateErrors_eq_nil_iff, List.map_eq_nil_iff, List.map_eq_nil_iff,
    List.filter_eq_nil_iff, List.filter_eq_nil_iff]
  simp only [Bool.not_eq_true', Bool.not_eq_false, refersToAny_iff]
  exact ⟨fun ⟨hnames, hdistinct, hbindings⟩ => ⟨hnames, hdistinct, hbindings⟩,
    fun h => ⟨h.identifiers, h.distinct, h.referring⟩⟩

theorem invalid_names_sublist (names : List String) :
    (names.filter fun name => !Naming.isIdentifier name).Sublist
      (names.filter fun name => !Naming.isIdentifierText name.toList) :=
  filter_not_sublist (fun _ => Naming.isIdentifier_of_isIdentifierText) names

theorem unbound_sublist (isPart : Char → Bool) (names : List String) (bindings : List TemplateBinding) :
    (bindings.filter fun b => !mentionsAny names b.expression).Sublist
      (bindings.filter fun b => !refersToAny isPart names b.expression) :=
  filter_not_sublist (fun _ => mentionsAny_of_refersToAny) bindings

/-- The check finds nothing that is not wrong. -/
theorem errors_sublist (isPart : Char → Bool) (i : InferredInputs) :
    i.errors.Sublist (i.deservedErrors isPart) :=
  (((invalid_names_sublist i.names).map _).append (List.Sublist.refl _)).append
    ((unbound_sublist isPart i.names i.bindings).map _)

/-- It finds everything exactly when nothing is other than it looks. -/
theorem errors_eq_iff_isPlainlyNamed (isPart : Char → Bool) (i : InferredInputs) :
    i.errors = i.deservedErrors isPart ↔ i.IsPlainlyNamed isPart := by
  have hnames : (i.names.filter fun name => !Naming.isIdentifier name).length =
      (i.names.filter fun name => !Naming.isIdentifierText name.toList).length ↔
      ∀ name ∈ i.names, Naming.isIdentifier name = true →
        Naming.isIdentifierText name.toList = true :=
    length_filter_not_eq_iff fun _ => Naming.isIdentifier_of_isIdentifierText
  have hbindings : (i.bindings.filter fun b => !mentionsAny i.names b.expression).length =
      (i.bindings.filter fun b => !refersToAny isPart i.names b.expression).length ↔
      ∀ b ∈ i.bindings, mentionsAny i.names b.expression = true →
        refersToAny isPart i.names b.expression = true :=
    length_filter_not_eq_iff fun _ => mentionsAny_of_refersToAny
  have hlength : i.errors.length = (i.deservedErrors isPart).length ↔ i.IsPlainlyNamed isPart := by
    have hnamesLe := (invalid_names_sublist i.names).length_le
    have hbindingsLe := (unbound_sublist isPart i.names i.bindings).length_le
    have hparts : i.errors.length = (i.deservedErrors isPart).length ↔
        (i.names.filter fun name => !Naming.isIdentifier name).length =
          (i.names.filter fun name => !Naming.isIdentifierText name.toList).length ∧
        (i.bindings.filter fun b => !mentionsAny i.names b.expression).length =
          (i.bindings.filter fun b => !refersToAny isPart i.names b.expression).length := by
      simp only [errors, nameErrors, bindingErrors, deservedErrors, List.length_append,
        List.length_map]
      omega
    rw [hparts, hnames, hbindings]
    simp only [mentionsAny_iff, refersToAny_iff, Naming.isIdentifierText_of_isIdentifier_iff]
    exact ⟨fun h => ⟨h.1, h.2⟩, fun h => ⟨h.ended, h.apart⟩⟩
  rw [← hlength]
  exact ⟨congrArg List.length, (errors_sublist isPart i).eq_of_length⟩

/-- Sound inputs are what they look like. -/
theorem IsSound.isPlainlyNamed (h : i.IsSound isPart) : i.IsPlainlyNamed isPart where
  ended name hname := Naming.isIdentifierText_of_isIdentifier_iff.1 fun _ => h.identifiers name hname
  apart b hb _ := h.referring b hb

/-- **What the check of inputs finds.** It accepts inputs exactly when every name is an identifier or
one followed by a line feed, the names are distinct, and every binding has a name somewhere in it. The
inputs without anything wrong are the sound ones; the check finds a part of what is wrong, in order, and
all of it exactly when no name ends in the line feed that is let pass and no binding has names within
longer words only. So it accepts all sound inputs, and of those that are not plainly named some others.
The names that it lists as duplicates are those that occur more than once, each once, in order. -/
theorem check_iff (isPart : Char → Bool) (i : InferredInputs) :
    (i.isValid = true ↔
      (∀ name ∈ i.names, Naming.isIdentifierText name.toList = true ∨
        ∃ t, Naming.isIdentifierText t = true ∧ name.toList = t ++ ['\n']) ∧
      i.names.Nodup ∧
      ∀ b ∈ i.bindings, ∃ name ∈ i.names, name.toList <:+: b.expression.toList) ∧
    (i.deservedErrors isPart = [] ↔ i.IsSound isPart) ∧
    i.errors.Sublist (i.deservedErrors isPart) ∧
    (i.errors = i.deservedErrors isPart ↔ i.IsPlainlyNamed isPart) ∧
    (i.IsSound isPart ↔ i.isValid = true ∧ i.IsPlainlyNamed isPart) ∧
    i.duplicateNames.Pairwise (· < ·) ∧
    ∀ name, name ∈ i.duplicateNames ↔ 1 < i.names.count name := by
  refine ⟨isValid_iff, deservedErrors_eq_nil_iff, errors_sublist isPart i,
    errors_eq_iff_isPlainlyNamed isPart i, ⟨fun h => ?_, fun ⟨hvalid, hplain⟩ => ?_⟩,
    pairwise_sortedDistinct _, fun name => mem_duplicateNames_iff⟩
  · have hnone := errors_sublist isPart i
    rw [deservedErrors_eq_nil_iff.2 h] at hnone
    exact ⟨List.isEmpty_iff.2 (List.sublist_nil.1 hnone), h.isPlainlyNamed⟩
  · rw [← deservedErrors_eq_nil_iff, ← (errors_eq_iff_isPlainlyNamed isPart i).2 hplain]
    exact List.isEmpty_iff.1 hvalid

/-- A single input, and a property of a button that is bound to an expression. -/
def boundInput (name expression : String) : InferredInputs where
  inputs := [⟨name, .string, some (.text "large"), some "Size", some .variant⟩]
  bindings := [{ kind := .property, target := "p-button", expression }]
  warnings := []

/-- A name found in a longer word, and one with a line feed behind it. -/
theorem unsound_but_accepted :
    (boundInput "size" "resized").errors = [] ∧
      (boundInput "size" "resized").deservedErrors Naming.isIdentifierPart =
        ["Binding on p-button does not reference a declared input"] ∧
      { boundInput "size\n" "" with bindings := [] }.errors = [] ∧
      { boundInput "size\n" "" with bindings := [] }.deservedErrors Naming.isIdentifierPart =
        ["Invalid input name: size\n"] := by
  decide +kernel

end InferredInputs

/-! ## Inferred inputs -/

theorem mem_identifierTokens {expression : String} (before after : List Char)
    (hname : Naming.isIdentifierText name.toList = true)
    (hexpression : expression.toList = before ++ name.toList ++ after)
    (hbefore : ∀ c ∈ before.getLast?, Naming.isIdentifierPart c = false)
    (hafter : ∀ c ∈ after.head?, Naming.isIdentifierPart c = false) :
    name.toList ∈ identifierTokens Naming.isIdentifierPart expression := by
  refine List.mem_filter.2 ⟨mem_splitOnP_iff.2 ⟨fun c hc => ?_, before, after, hexpression,
    fun c hc => ?_, fun c hc => ?_⟩, hname⟩
  · rw [Naming.isIdentifierPart_of_mem hname hc, Bool.not_true]
  · rw [hbefore c hc, Bool.not_false]
  · rw [hafter c hc, Bool.not_false]

/-- A binding of an input refers to it. -/
theorem InferredInput.token_of_mem_bindings {input : InferredInput} {root : String}
    {b : TemplateBinding} (hname : Naming.isIdentifierText input.name.toList = true)
    (h : b ∈ input.bindings root) :
    input.name.toList ∈ identifierTokens Naming.isIdentifierPart b.expression := by
  have hself : input.name.toList ∈ identifierTokens Naming.isIdentifierPart input.name :=
    mem_identifierTokens [] [] hname (List.append_nil _).symm nofun nofun
  unfold bindings at h
  split at h
  · obtain rfl := List.mem_singleton.1 h
    exact hself
  · obtain rfl := List.mem_singleton.1 h
    have hexpression : (variantExpression input.name).toList =
        ("'".toList ++ (Naming.kebabCase input.name).toList ++ "-' +".toList ++ [' ']) ++
          input.name.toList ++ [] := by
      simp [variantExpression, toString]
    refine mem_identifierTokens _ [] hname hexpression (fun c hc => ?_) nofun
    rw [List.getLast?_concat] at hc
    obtain rfl := Option.some.inj hc
    decide
  · split at h
    · rcases List.mem_cons.1 h with rfl | h
      · have hexpression : (interpolation input.name).toList =
            ['\x7b', '\x7b', ' '] ++ input.name.toList ++ [' ', '\x7d', '\x7d'] := by
          simp [interpolation]
        refine mem_identifierTokens _ _ hname hexpression (fun c hc => ?_) fun c hc => ?_
        · obtain rfl := Option.some.inj hc
          decide
        · obtain rfl := Option.some.inj hc
          decide
      · split at h
        · obtain rfl := List.mem_singleton.1 h
          exact hself
        · cases h
    · cases h

/-- What is inferred from a node is sound. -/
theorem isSound_inferInputs (node : Json) (screenName : String) :
    (inferInputs node screenName).IsSound Naming.isIdentifierPart where
  identifiers := (isWellFormed_inferInputs node screenName).identifiers
  distinct := (isWellFormed_inferInputs node screenName).distinct
  referring b hb := by
    rw [bindings_inferInputs] at hb
    obtain ⟨input, hinput, hb⟩ := List.mem_flatMap.1 hb
    have hname : input.name ∈ (inferInputs node screenName).names := List.mem_map_of_mem hinput
    have hidentifier := (isWellFormed_inferInputs node screenName).identifiers input.name hname
    exact ⟨input.name, hname, input.token_of_mem_bindings hidentifier hb⟩

end Wireframe
