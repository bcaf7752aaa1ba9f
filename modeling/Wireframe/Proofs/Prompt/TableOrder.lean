import Wireframe.Proofs.Prompt.Code

/-!
# Prompts and the order of tables

A mapping table is a map from kinds to entries, and an entry holds a map of attribute templates and a
set of modules. A prompt does not show in which order they are listed: it is asked for entries by kind
and for attributes by name, sorts modules, and writes a table with all its fields in order.

* `MappingTable.IsProper` — a table in which every kind, attribute and module is listed once.
* `MappingTable.Rearranges` — two tables that list the same in different orders.
* `MappingTable.Alike`, `Prompt.codePrompt_of_alike` — what a prompt depends on.
* `codePrompt_rearranged` — rearranging a table changes neither a prompt nor a fault.
-/

set_option autoImplicit false

namespace Wireframe

open Text

/-! ## Entries -/

namespace MappingEntry

variable {e e' : MappingEntry}

/-- An entry whose attributes have distinct names and whose modules stand in order, each once. -/
structure IsProper (e : MappingEntry) : Prop where
  attributes : (e.attributes.map (·.1)).Nodup
  imports : e.imports.Pairwise (· < ·)

/-- Two entries that say the same, with attributes in any order and one set of modules. -/
structure Rearranges (e e' : MappingEntry) : Prop where
  kind : e.kind = e'.kind
  tag : e.tag = e'.tag
  content : e.content = e'.content
  attributes : e.attributes.Perm e'.attributes
  imports : ∀ m, m ∈ e.imports ↔ m ∈ e'.imports

/-- Two entries between which a prompt sees no difference. -/
structure Alike (e e' : MappingEntry) : Prop where
  tag : e.tag = e'.tag
  content : e.content = e'.content
  template : ∀ name, e.attributes.lookup name = e'.attributes.lookup name
  imports : e.imports = e'.imports
  json : e.toJson.sortKeys = e'.toJson.sortKeys

/-- Texts under distinct names are written alike, whatever order they come in. -/
theorem sortKeys_of_perm {attributes attributes' : List (String × String)}
    (hnames : (attributes.map (·.1)).Nodup) (h : attributes.Perm attributes') :
    Json.sortKeys (.obj (attributes.map fun (name, s) => (name, .str s))) =
      Json.sortKeys (.obj (attributes'.map fun (name, s) => (name, .str s))) := by
  rw [Json.sortKeys, Json.sortKeys, Json.sortKeysOfFields_eq, Json.sortKeysOfFields_eq,
    List.map_map, List.map_map]
  refine congrArg Json.obj (mergeSort_fields ?_ (h.map _))
  rw [List.map_map]
  exact hnames

theorem Rearranges.alike (h : e.Rearranges e') (he : e.IsProper) (he' : e'.IsProper) :
    e.Alike e' where
  tag := h.tag
  content := h.content
  template := lookup_of_perm he.attributes h.attributes
  imports := eq_of_ascending he.imports he'.imports h.imports
  json := by
    have himports := eq_of_ascending he.imports he'.imports h.imports
    have hattributes := sortKeys_of_perm he.attributes h.attributes
    unfold toJson
    rw [Json.sortKeys, Json.sortKeys, Json.sortKeysOfFields_eq, Json.sortKeysOfFields_eq]
    simp only [List.map_cons, h.tag, h.content, himports, hattributes]

/-- Alike entries give a component the same element. -/
theorem Alike.element_eq (h : e.Alike e') (c : DesignComponent) (inferred : Option InferredInputs) :
    c.element e inferred = c.element e' inferred := by
  unfold DesignComponent.element
  rw [h.tag]
  cases c <;> simp only [DesignComponent.attributes, DesignComponent.content, h.template, h.content]

end MappingEntry

/-! ## Tables -/

namespace MappingTable

variable {table table' : MappingTable}

/-- A table with one entry for each of its kinds, all of them proper. -/
structure IsProper (table : MappingTable) : Prop where
  kinds : (table.map (·.1)).Nodup
  entries : ∀ p ∈ table, p.2.IsProper

/-- Two tables that list the same kinds with entries that say the same, each in any order. -/
def Rearranges (table table' : MappingTable) : Prop :=
  ∃ moved : MappingTable, table.Perm moved ∧
    List.Forall₂ (fun p q => p.1 = q.1 ∧ p.2.Rearranges q.2) moved table'

/-- Two tables between which a prompt sees no difference. -/
structure Alike (table table' : MappingTable) : Prop where
  entry : ∀ kind, Option.Rel MappingEntry.Alike (table.find? kind) (table'.find? kind)
  json : table.toJson = table'.toJson

theorem forall₂_alike {rows rows' : MappingTable}
    (h : List.Forall₂ (fun p q => p.1 = q.1 ∧ p.2.Rearranges q.2) rows rows')
    (hrows : ∀ p ∈ rows, p.2.IsProper) (hrows' : ∀ p ∈ rows', p.2.IsProper) :
    List.Forall₂ (fun p q => p.1 = q.1 ∧ p.2.Alike q.2) rows rows' := by
  induction h with
  | nil => exact .nil
  | cons hrow _ ih =>
    obtain ⟨hp, hrows⟩ := List.forall_mem_cons.1 hrows
    obtain ⟨hq, hrows'⟩ := List.forall_mem_cons.1 hrows'
    exact .cons ⟨hrow.1, hrow.2.alike hp hq⟩ (ih hrows hrows')

theorem lookup_rel {rows rows' : MappingTable}
    (h : List.Forall₂ (fun p q => p.1 = q.1 ∧ p.2.Alike q.2) rows rows') (kind : String) :
    Option.Rel MappingEntry.Alike (rows.lookup kind) (rows'.lookup kind) := by
  induction h with
  | nil => exact .none
  | @cons p q _ _ hrow _ ih =>
    rw [List.lookup_cons, List.lookup_cons, hrow.1]
    cases kind == q.1 with
    | true => exact .some hrow.2
    | false => exact ih

theorem Rearranges.alike (h : table.Rearranges table') (ht : table.IsProper)
    (ht' : table'.IsProper) : table.Alike table' := by
  obtain ⟨moved, hperm, hrows⟩ := h
  have hproper : ∀ p ∈ moved, p.2.IsProper := fun p hp => ht.entries p (hperm.mem_iff.2 hp)
  have halike := forall₂_alike hrows hproper ht'.entries
  refine ⟨fun kind => ?_, ?_⟩
  · unfold find?
    rw [lookup_of_perm ht.kinds hperm]
    exact lookup_rel halike kind
  · have hwritten : List.Forall₂ Eq (moved.map fun p => (p.1, p.2.toJson.sortKeys))
        (table'.map fun p => (p.1, p.2.toJson.sortKeys)) :=
      List.forall₂_map_left_iff.2 (List.forall₂_map_right_iff.2
        (halike.imp fun p q hrow => Prod.ext hrow.1 hrow.2.json))
    rw [List.forall₂_eq_eq_eq] at hwritten
    rw [toJson_eq, toJson_eq, mergeSort_fields ?_ (hperm.map _), hwritten]
    rw [List.map_map]
    exact ht.kinds

/-! ## What is asked of a table -/

theorem Alike.findValue? (h : table.Alike table') (kind : Json) :
    Option.Rel MappingEntry.Alike (table.findValue? kind) (table'.findValue? kind) := by
  unfold MappingTable.findValue?
  cases kind.text? with
  | none => exact .none
  | some s => exact h.entry s

/-- What goes on with an entry, and treats alike entries the same, does not tell the tables apart. -/
theorem Alike.entryFor_bind {α : Type} (h : table.Alike table') (kind : Json)
    {k k' : MappingEntry → Except Failure α} (hk : ∀ e e', e.Alike e' → k e = k' e') :
    (table.entryFor kind >>= k) = (table'.entryFor kind >>= k') := by
  have hentry := h.findValue? kind
  unfold entryFor
  generalize table.findValue? kind = found, table'.findValue? kind = found' at hentry ⊢
  cases hentry with
  | none => rfl
  | some halike => exact hk _ _ halike

theorem Alike.mapM_entryFor_bind {α : Type} (h : table.Alike table') (kinds : List Json)
    {k k' : List MappingEntry → Except Failure α}
    (hk : ∀ es es', List.Forall₂ MappingEntry.Alike es es' → k es = k' es') :
    (kinds.mapM table.entryFor >>= k) = (kinds.mapM table'.entryFor >>= k') := by
  induction kinds generalizing k k' with
  | nil => exact hk [] [] .nil
  | cons kind kinds ih =>
    rw [List.mapM_cons, List.mapM_cons, bind_assoc, bind_assoc]
    refine h.entryFor_bind kind fun e e' hentry => ?_
    rw [bind_assoc, bind_assoc]
    exact ih fun es es' hentries => hk (e :: es) (e' :: es') (.cons hentry hentries)

theorem flatMap_imports_eq {es es' : List MappingEntry}
    (h : List.Forall₂ MappingEntry.Alike es es') :
    es.flatMap (·.imports) = es'.flatMap (·.imports) := by
  induction h with
  | nil => rfl
  | cons hentry _ ih => rw [List.flatMap_cons, List.flatMap_cons, hentry.imports, ih]

theorem Alike.importsFor_eq (h : table.Alike table') (kinds : List Json) :
    table.importsFor kinds = table'.importsFor kinds :=
  h.mapM_entryFor_bind kinds fun _ _ hentries => by rw [flatMap_imports_eq hentries]

theorem Alike.unmappedFrom_eq (h : table.Alike table') (start : Nat) (kinds : List Json) :
    table.unmappedFrom start kinds = table'.unmappedFrom start kinds := by
  induction kinds generalizing start with
  | nil => rfl
  | cons kind kinds ih =>
    have hentry := h.findValue? kind
    rw [unmappedFrom, unmappedFrom, ih]
    generalize table.findValue? kind = found, table'.findValue? kind = found' at hentry ⊢
    cases hentry with
    | none => rfl
    | some _ => rfl

theorem Alike.checkAll_eq (h : table.Alike table') (kinds : List Json) :
    table.checkAll kinds = table'.checkAll kinds := by
  unfold checkAll
  rw [h.unmappedFrom_eq]

end MappingTable

/-! ## Prompts -/

namespace Prompt

variable {table table' : MappingTable}

theorem instructionsFrom_of_alike (h : table.Alike table') (inferred : Option InferredInputs)
    (position : Nat) (components : List DesignComponent) :
    instructionsFrom table inferred position components =
      instructionsFrom table' inferred position components := by
  induction components generalizing position with
  | nil => rfl
  | cons c components ih =>
    rw [instructionsFrom, instructionsFrom, ih]
    refine h.entryFor_bind c.kind.toJson fun e e' hentry => ?_
    unfold instructionLine
    rw [hentry.element_eq]

/-- Of a table, a prompt shows what it has for each kind and how it is written. -/
theorem codePrompt_of_alike (h : table.Alike table') (d : Design)
    (inferred : Option InferredInputs) :
    codePrompt d table inferred = codePrompt d table' inferred := by
  have hinstructions : componentInstructions d (usable inferred) table =
      componentInstructions d (usable inferred) table' := by
    unfold componentInstructions
    rw [instructionsFrom_of_alike h]
  unfold codePrompt
  dsimp only
  rw [h.checkAll_eq, h.importsFor_eq, hinstructions, h.json]

end Prompt

/-- **Prompts do not show the order of a table.** Two tables with the same kinds, whose entries say
the same, whatever the order of the kinds and of the attributes of an entry, give a design the same
prompt or the same fault. -/
theorem codePrompt_rearranged {table table' : MappingTable} (h : table.Rearranges table')
    (ht : table.IsProper) (ht' : table'.IsProper) (d : Design) (inferred : Option InferredInputs) :
    Prompt.codePrompt d table inferred = Prompt.codePrompt d table' inferred :=
  Prompt.codePrompt_of_alike (h.alike ht ht') d inferred

/-! ## The standard table from its end -/

namespace MappingTable

theorem isProper_standard : standard.IsProper where
  kinds := by decide
  entries := by
    intro p hp
    obtain ⟨k, -, rfl⟩ := List.mem_map.1 hp
    cases k <;> exact ⟨by decide, by decide⟩

/-- A table listed from its end, as are the attributes of its entries. -/
def reversed (table : MappingTable) : MappingTable :=
  table.reverse.map fun (kind, e) => (kind, { e with attributes := e.attributes.reverse })

theorem rearranges_reversed (table : MappingTable) : table.Rearranges table.reversed := by
  refine ⟨table.reverse, (List.reverse_perm table).symm, ?_⟩
  refine List.forall₂_map_right_iff.2 (List.forall₂_same.2 fun p _ => ⟨rfl, ?_⟩)
  exact ⟨rfl, rfl, rfl, (List.reverse_perm _).symm, fun _ => Iff.rfl⟩

theorem IsProper.reversed {table : MappingTable} (h : table.IsProper) : table.reversed.IsProper where
  kinds := by
    rw [MappingTable.reversed, List.map_map, List.map_reverse, List.nodup_reverse]
    exact h.kinds
  entries := by
    intro p hp
    obtain ⟨q, hq, rfl⟩ := List.mem_map.1 hp
    have hentry := h.entries q (List.mem_reverse.1 hq)
    refine ⟨?_, hentry.imports⟩
    rw [List.map_reverse, List.nodup_reverse]
    exact hentry.attributes

end MappingTable

/-- A screen with a button and the field in front of it. -/
def signInDesign : Design where
  screenName := "SignIn"
  flow := .horizontal
  components := [.input "Address" "email", .button "primary" "Sign in"]
  tokens := {}

theorem codePrompt_rearranged_standard :
    MappingTable.standard.reversed ≠ .standard ∧
      ∃ prompt, Prompt.codePrompt signInDesign .standard none = .ok prompt ∧
        Prompt.codePrompt signInDesign MappingTable.standard.reversed none = .ok prompt := by
  have hsame := codePrompt_rearranged (MappingTable.rearranges_reversed .standard)
    MappingTable.isProper_standard MappingTable.isProper_standard.reversed signInDesign none
  obtain ⟨prompt, hprompt⟩ := Prompt.codePrompt_standard (d := signInDesign) rfl none
  exact ⟨by decide, prompt, hprompt, hsame.symm.trans hprompt⟩

end Wireframe
