import Wireframe.Markup.Element
import Wireframe.Proofs.Text.Search

/-!
# Reading markup

How the text of one element is taken apart again: the name of its tag, its attributes one after another,
and what stands between its tags. Values stand between double quotes. References are replaced in one
pass, so that what one of them stands for begins no other.

* `decoded` — a text with the characters that its references name.
* `readOpening?` — the opening tag that a text begins with, and what stands behind it.
* `readElement?` — a text that is one element, with no markup between its two tags.
* `decoded_escaped`, `decoded_eq_self_iff` — an escaped value comes back; what decoding leaves alone.
* `readOpening?_write` — the opening tag of an element is read back.
* `readElement?_write_iff` — when a whole element is read back, and with which content.
-/

set_option autoImplicit false

namespace Wireframe.Markup

open Text

/-! ## References -/

/-- A character by its name, which is written between an ampersand and a semicolon. -/
structure Reference where
  name : List Char
  char : Char
  deriving DecidableEq, Repr

/-- A reference as it is written. -/
def Reference.write (r : Reference) : List Char := '&' :: (r.name ++ [';'])

/-- The references that the values of attributes are written with. -/
def valueReferences : List Reference := [⟨"quot".toList, '"'⟩, ⟨"amp".toList, '&'⟩]

/-- The reference that a text begins with. -/
def leading? (refs : List Reference) (s : List Char) : Option Reference :=
  refs.find? fun r => (dropLead? r.write s).isSome

/-- A text with the characters that its references name. The first `skip` characters belong to a
reference that has been replaced. -/
def decodedFrom (refs : List Reference) : Nat → List Char → List Char
  | _, [] => []
  | skip + 1, _ :: rest => decodedFrom refs skip rest
  | 0, c :: rest =>
    match leading? refs (c :: rest) with
    | some r => r.char :: decodedFrom refs (r.name.length + 1) rest
    | none => c :: decodedFrom refs 0 rest

/-- A text with the characters that its references name, each read once. -/
def decoded (refs : List Reference) (s : List Char) : List Char := decodedFrom refs 0 s

variable {refs : List Reference} {r : Reference} {c : Char} {s t : List Char}

theorem leading?_eq_none_iff : leading? refs s = none ↔ ∀ r ∈ refs, ¬r.write <+: s := by
  simp only [leading?, List.find?_eq_none, dropLead?_isSome_iff]

theorem prefix_of_leading? (h : leading? refs s = some r) : r ∈ refs ∧ r.write <+: s := by
  have hlead := List.find?_some h
  exact ⟨List.mem_of_find?_eq_some h, dropLead?_isSome_iff.1 hlead⟩

theorem leading?_cons_of_ne (h : c ≠ '&') (s : List Char) : leading? refs (c :: s) = none := by
  rw [leading?_eq_none_iff]
  intro r _ hprefix
  exact h (List.cons_prefix_cons.1 hprefix).1.symm

theorem decoded_cons_of_none (h : leading? refs (c :: s) = none) :
    decoded refs (c :: s) = c :: decoded refs s := by
  rw [decoded, decodedFrom, h]
  rfl

theorem decodedFrom_length_append (refs : List Reference) (a s : List Char) :
    decodedFrom refs a.length (a ++ s) = decoded refs s := by
  induction a with
  | nil => rfl
  | cons c a ih => exact ih

/-- A reference in front of a text is replaced, and what follows it is read anew. -/
theorem decoded_write_append (h : leading? refs (r.write ++ s) = some r) :
    decoded refs (r.write ++ s) = r.char :: decoded refs s := by
  have hskip := decodedFrom_length_append refs (r.name ++ [';']) s
  rw [List.length_append, List.length_singleton] at hskip
  rw [Reference.write, List.cons_append] at h ⊢
  rw [decoded, decodedFrom, h]
  exact congrArg (r.char :: ·) hskip

/-! ## Escaped values -/

theorem decoded_escapedChar (c : Char) (s : List Char) :
    decoded valueReferences (escapedChar c ++ s) = c :: decoded valueReferences s := by
  unfold escapedChar
  split
  · rename_i hamp
    rw [hamp]
    exact decoded_write_append (r := ⟨"amp".toList, '&'⟩) rfl
  · split
    · rename_i hquote
      rw [hquote]
      exact decoded_write_append (r := ⟨"quot".toList, '"'⟩) rfl
    · rename_i hamp _
      exact decoded_cons_of_none (leading?_cons_of_ne hamp s)

/-- An escaped value comes back, whatever ampersands and references it holds. -/
theorem decoded_escaped (v : List Char) : decoded valueReferences (escaped v) = v := by
  induction v with
  | nil => rfl
  | cons c v ih =>
    rw [escaped, List.flatMap_cons, decoded_escapedChar, ← escaped, ih]

theorem quote_not_mem_escaped (v : List Char) : '"' ∉ escaped v := by
  intro hmem
  obtain ⟨c, -, hc⟩ := List.mem_flatMap.1 hmem
  unfold escapedChar at hc
  split at hc
  · exact absurd hc (by decide)
  · split at hc
    · exact absurd hc (by decide)
    · rename_i hquote
      exact hquote (List.mem_singleton.1 hc).symm

/-! ## What decoding leaves alone -/

theorem length_decodedFrom_le (refs : List Reference) (skip : Nat) (s : List Char) :
    (decodedFrom refs skip s).length ≤ s.length - skip := by
  fun_induction decodedFrom refs skip s with
  | case1 => exact Nat.zero_le _
  | case2 skip _ rest ih => simpa using ih
  | case3 c rest r _ ih =>
    simp only [List.length_cons] at ih ⊢
    omega
  | case4 c rest _ ih => simpa using ih

/-- A text is its own decoded form exactly when no reference occurs in it. -/
theorem decoded_eq_self_iff : decoded refs s = s ↔ ∀ r ∈ refs, ¬r.write <:+: s := by
  induction s with
  | nil =>
    refine iff_of_true rfl ?_
    intro r _ hinfix
    exact List.cons_ne_nil _ _ (List.infix_nil.1 hinfix)
  | cons c s ih =>
    cases hlead : leading? refs (c :: s) with
    | none =>
      have hnone := leading?_eq_none_iff.1 hlead
      rw [decoded_cons_of_none hlead, List.cons.injEq, and_iff_right rfl, ih]
      refine forall₂_congr fun r hr => ?_
      rw [List.infix_cons_iff, or_iff_right (hnone r hr)]
    | some r =>
      obtain ⟨hr, hprefix⟩ := prefix_of_leading? hlead
      refine iff_of_false ?_ fun h => h r hr hprefix.isInfix
      intro heq
      have hlength := congrArg List.length heq
      have hrest := length_decodedFrom_le refs (r.name.length + 1) s
      have hpos := hprefix.length_le
      rw [decoded, decodedFrom, hlead] at hlength
      simp only [Reference.write, List.length_cons, List.length_append, List.length_nil] at hlength hpos
      omega

/-! ## Tags -/

/-- White space within a tag. -/
def isTagBlank (c : Char) : Bool := c == ' ' || c == '\t' || c == '\n' || c == '\x0c' || c == '\r'

/-- Whether a character can stand in the name of a tag. -/
def isTagNameChar (c : Char) : Bool := !isTagBlank c && c != '/' && c != '>'

/-- Whether a text is the name of a tag: a letter of ASCII, and then anything up to the end of a name. -/
def isTagName : List Char → Bool
  | [] => false
  | c :: rest => c.isAlpha && (c :: rest).all isTagNameChar

/-- Whether a character can stand in the name of an attribute. -/
def isAttributeNameChar (c : Char) : Bool :=
  isTagNameChar c && c != '=' && c != '"' && c != '\'' && c != '<'

structure IsAttributeName (name : List Char) : Prop where
  nonempty : name ≠ []
  chars : ∀ c ∈ name, isAttributeNameChar c = true

/-- Places in an opening tag. -/
inductive TagPlace where
  /-- Behind the name of the tag, or behind a value. -/
  | between
  /-- Behind white space. -/
  | blank
  /-- Within the name of an attribute. -/
  | name (read : List Char)
  /-- Behind the equals sign. -/
  | equals (name : List Char)
  /-- Within a value. -/
  | value (name read : List Char)

/-- The attributes up to the end of an opening tag, and the text behind it. -/
def readTag : TagPlace → List Char → Option (List Attribute × List Char)
  | _, [] => none
  | .between, c :: rest =>
    if c = '>' then some ([], rest)
    else if isTagBlank c then readTag .blank rest
    else none
  | .blank, c :: rest =>
    if c = '>' then some ([], rest)
    else if isTagBlank c then readTag .blank rest
    else if isAttributeNameChar c then readTag (.name [c]) rest
    else none
  | .name read, c :: rest =>
    if c = '=' then readTag (.equals read) rest
    else if isAttributeNameChar c then readTag (.name (read ++ [c])) rest
    else none
  | .equals name, c :: rest => if c = '"' then readTag (.value name []) rest else none
  | .value name read, c :: rest =>
    if c = '"' then
      (readTag .between rest).map fun (attributes, behind) =>
        (⟨name, decoded valueReferences read⟩ :: attributes, behind)
    else readTag (.value name (read ++ [c])) rest

/-- What is read of an opening tag: its name, its attributes in order, and the text behind it. -/
structure Opening where
  tag : List Char
  attributes : List Attribute
  behind : List Char
  deriving DecidableEq, Repr

/-- The opening tag that a text begins with. -/
def readOpening? : List Char → Option Opening
  | [] => none
  | c :: rest =>
    let tag := rest.takeWhile isTagNameChar
    if c = '<' ∧ isTagName tag = true then
      (readTag .between (rest.dropWhile isTagNameChar)).map fun (attributes, behind) =>
        ⟨tag, attributes, behind⟩
    else none

variable {name v : List Char} {a : Attribute} {attributes : List Attribute} {e : Element}

theorem readTag_name (h : ∀ c ∈ name, isAttributeNameChar c = true) (read s : List Char) :
    readTag (.name read) (name ++ '=' :: s) = readTag (.equals (read ++ name)) s := by
  induction name generalizing read with
  | nil => rw [List.nil_append, readTag, if_pos rfl, List.append_nil]
  | cons c name ih =>
    obtain ⟨hc, hname⟩ := List.forall_mem_cons.1 h
    have hequals : c ≠ '=' := by
      rintro rfl
      exact absurd hc (by decide)
    rw [List.cons_append, readTag, if_neg hequals, if_pos hc, ih hname, List.append_assoc,
      List.singleton_append]

theorem readTag_value (h : '"' ∉ v) (name read s : List Char) :
    readTag (.value name read) (v ++ '"' :: s) =
      (readTag .between s).map fun (attributes, behind) =>
        (⟨name, decoded valueReferences (read ++ v)⟩ :: attributes, behind) := by
  induction v generalizing read with
  | nil => rw [List.nil_append, readTag, if_pos rfl, List.append_nil]
  | cons c v ih =>
    rw [List.mem_cons, not_or] at h
    rw [List.cons_append, readTag, if_neg (Ne.symm h.1), ih h.2, List.append_assoc,
      List.singleton_append]

/-- An attribute behind a blank is read back. -/
theorem readTag_write (h : IsAttributeName a.name) (s : List Char) :
    readTag .between (' ' :: (a.write ++ s)) =
      (readTag .between s).map fun (attributes, behind) => (a :: attributes, behind) := by
  obtain ⟨name, value⟩ := a
  obtain ⟨c, name, rfl⟩ := List.exists_cons_of_ne_nil h.nonempty
  obtain ⟨hc, hname⟩ := List.forall_mem_cons.1 h.chars
  have hend : c ≠ '>' := by
    rintro rfl
    exact absurd hc (by decide)
  have hblank : isTagBlank c ≠ true := by
    intro hblank
    simp [isAttributeNameChar, isTagNameChar, hblank] at hc
  have hwritten : Attribute.write ⟨c :: name, value⟩ ++ s =
      c :: (name ++ '=' :: '"' :: (escaped value ++ '"' :: s)) := by
    simp [Attribute.write]
  have hlead (rest : List Char) : readTag .between (' ' :: rest) = readTag .blank rest := rfl
  rw [hwritten, hlead, readTag, if_neg hend, if_neg hblank, if_pos hc, readTag_name hname, readTag,
    if_pos rfl, readTag_value (quote_not_mem_escaped value), List.nil_append, decoded_escaped]
  rfl

theorem readTag_writeAttributes (h : ∀ a ∈ attributes, IsAttributeName a.name) (s : List Char) :
    readTag .between (writeAttributes attributes ++ '>' :: s) = some (attributes, s) := by
  induction attributes with
  | nil => rfl
  | cons a attributes ih =>
    obtain ⟨ha, hattributes⟩ := List.forall_mem_cons.1 h
    have hwritten : writeAttributes (a :: attributes) ++ '>' :: s =
        ' ' :: (a.write ++ (writeAttributes attributes ++ '>' :: s)) := by
      simp [writeAttributes]
    rw [hwritten, readTag_write ha, ih hattributes]
    rfl

theorem isTagNameChar_of_isTagName (h : isTagName s = true) : ∀ c ∈ s, isTagNameChar c = true := by
  cases s with
  | nil => cases h
  | cons c s =>
    rw [isTagName, Bool.and_eq_true, List.all_eq_true] at h
    exact h.2

/-- Behind its attributes a written tag ends, so that its name is followed by a blank or by that end. -/
theorem exists_writeAttributes_append (attributes : List Attribute) (s : List Char) :
    ∃ d rest, writeAttributes attributes ++ '>' :: s = d :: rest ∧ isTagNameChar d = false := by
  cases attributes with
  | nil => exact ⟨'>', s, rfl, by decide⟩
  | cons a attributes => exact ⟨' ', _, rfl, by decide⟩

/-- The opening tag of an element is read back, with what follows it. -/
theorem readOpening?_write (htag : isTagName e.tag = true)
    (hnames : ∀ a ∈ e.attributes, IsAttributeName a.name) (s : List Char) :
    readOpening? (e.opening ++ s) = some ⟨e.tag, e.attributes, s⟩ := by
  have hwritten : e.opening ++ s = '<' :: (e.tag ++ (writeAttributes e.attributes ++ '>' :: s)) := by
    simp [Element.opening]
  have hread := readTag_writeAttributes hnames s
  obtain ⟨d, rest, hrest, hd⟩ := exists_writeAttributes_append e.attributes s
  have hchars := isTagNameChar_of_isTagName htag
  have htake : (e.tag ++ d :: rest).takeWhile isTagNameChar = e.tag := by
    rw [List.takeWhile_append_of_pos hchars, List.takeWhile_cons_of_neg (by simp [hd]),
      List.append_nil]
  have hdrop : (e.tag ++ d :: rest).dropWhile isTagNameChar = d :: rest := by
    rw [List.dropWhile_append_of_pos hchars, List.dropWhile_cons_of_neg (by simp [hd])]
  rw [hrest] at hread
  rw [hwritten, hrest, readOpening?]
  dsimp only
  rw [htake, hdrop, if_pos ⟨rfl, htag⟩, hread]
  rfl

/-- Only names of tags are read as such. -/
theorem isTagName_of_readOpening? {o : Opening} (h : readOpening? s = some o) :
    isTagName o.tag = true := by
  cases s with
  | nil => cases h
  | cons c rest =>
    rw [readOpening?] at h
    split at h
    · rename_i hname
      obtain ⟨-, -, rfl⟩ := Option.map_eq_some_iff.1 h
      exact hname.2
    · cases h

/-! ## Elements -/

/-- Whether markup begins with a less-than sign in front of a character. -/
def opensMarkup (d : Char) : Bool := d.isAlpha || d == '/' || d == '!' || d == '?'

/-- Whether a text begins with markup: a tag, a comment, a declaration or an instruction. -/
def startsMarkup : List Char → Bool
  | c :: d :: _ => c == '<' && opensMarkup d
  | _ => false

/-- The text in front of the first markup, and the rest from there. -/
def cutMarkup : List Char → List Char × List Char
  | [] => ([], [])
  | c :: rest =>
    if startsMarkup (c :: rest) then ([], c :: rest)
    else (c :: (cutMarkup rest).1, (cutMarkup rest).2)

/-- Whether markup begins somewhere in a text. -/
def HasMarkup (s : List Char) : Prop := ∃ t, t <:+ s ∧ startsMarkup t = true

/-- A text that is one element: an opening tag, a text without markup, and the closing tag. -/
def readElement? (refs : List Reference) (s : List Char) : Option Element :=
  (readOpening? s).bind fun o =>
    let (text, rest) := cutMarkup o.behind
    if rest = '<' :: '/' :: (o.tag ++ ['>']) then some ⟨o.tag, o.attributes, decoded refs text⟩
    else none

theorem hasMarkup_cons : HasMarkup (c :: s) ↔ startsMarkup (c :: s) = true ∨ HasMarkup s := by
  simp only [HasMarkup, List.suffix_cons_iff, or_and_right, exists_or, exists_eq_left]

/-- What markup begins with in front of other markup, it begins with by itself. -/
theorem startsMarkup_append (h : startsMarkup t = true) (c : Char) (s : List Char) :
    startsMarkup (c :: s ++ t) = startsMarkup (c :: s) := by
  cases s with
  | cons d s => rfl
  | nil =>
    match t, h with
    | d :: e :: rest, h =>
      rw [startsMarkup, Bool.and_eq_true, beq_iff_eq] at h
      rw [h.1]
      have hopens : opensMarkup '<' = false := by decide
      simp [startsMarkup, hopens]

theorem append_cutMarkup (s : List Char) : (cutMarkup s).1 ++ (cutMarkup s).2 = s := by
  fun_induction cutMarkup s with
  | case1 => rfl
  | case2 c rest _ => rfl
  | case3 c rest _ ih => exact congrArg (c :: ·) ih

/-- Markup behind a text is what the text is cut from exactly when there is none in the text. -/
theorem cutMarkup_append_snd_iff (ht : startsMarkup t = true) :
    (cutMarkup (s ++ t)).2 = t ↔ ¬HasMarkup s := by
  induction s with
  | nil =>
    have hcut : (cutMarkup t).2 = t := by
      cases t with
      | nil => rfl
      | cons c t => rw [cutMarkup, if_pos ht]
    refine iff_of_true hcut ?_
    rintro ⟨u, hu, hstart⟩
    rw [List.suffix_nil.1 hu] at hstart
    cases hstart
  | cons c s ih =>
    rw [hasMarkup_cons, List.cons_append, cutMarkup, ← List.cons_append, startsMarkup_append ht]
    by_cases hstart : startsMarkup (c :: s) = true
    · have hlonger : c :: s ++ t ≠ t := by
        intro heq
        have hlength := congrArg List.length heq
        simp only [List.length_append, List.length_cons] at hlength
        omega
      rw [if_pos hstart]
      exact iff_of_false hlonger fun h => h (.inl hstart)
    · rw [if_neg hstart, not_or, and_iff_right hstart, ← ih]

theorem cutMarkup_append_fst (h : (cutMarkup (s ++ t)).2 = t) : (cutMarkup (s ++ t)).1 = s := by
  have happend := append_cutMarkup (s ++ t)
  rw [h] at happend
  exact List.append_cancel_right happend

/-- An element is read back from its text exactly when its tag has a name and no markup stands between
its two tags; what is read between them is its content with references replaced. -/
theorem readElement?_write_iff (hnames : ∀ a ∈ e.attributes, IsAttributeName a.name)
    (refs : List Reference) (content : List Char) :
    readElement? refs e.write = some ⟨e.tag, e.attributes, content⟩ ↔
      isTagName e.tag = true ∧ ¬HasMarkup e.content ∧ decoded refs e.content = content := by
  have hclosing : startsMarkup e.closing = true := rfl
  have hwritten : e.write = e.opening ++ (e.content ++ e.closing) := by
    rw [Element.write, List.append_assoc]
  by_cases htag : isTagName e.tag = true
  · have hread : readElement? refs e.write =
        if (cutMarkup (e.content ++ e.closing)).2 = e.closing then
          some ⟨e.tag, e.attributes, decoded refs (cutMarkup (e.content ++ e.closing)).1⟩
        else none := by
      rw [hwritten, readElement?, readOpening?_write htag hnames]
      rfl
    rw [hread, and_iff_right htag, ← cutMarkup_append_snd_iff hclosing]
    by_cases hcut : (cutMarkup (e.content ++ e.closing)).2 = e.closing
    · rw [if_pos hcut, cutMarkup_append_fst hcut, and_iff_right hcut]
      simp
    · rw [if_neg hcut]
      exact iff_of_false nofun fun h => hcut h.1
  · refine iff_of_false ?_ fun h => htag h.1
    intro hread
    obtain ⟨o, ho, hbehind⟩ := Option.bind_eq_some_iff.1 hread
    dsimp only at hbehind
    split at hbehind
    · have hname : o.tag = e.tag := congrArg Element.tag (Option.some.inj hbehind)
      exact htag (hname ▸ isTagName_of_readOpening? ho)
    · cases hbehind

end Wireframe.Markup
