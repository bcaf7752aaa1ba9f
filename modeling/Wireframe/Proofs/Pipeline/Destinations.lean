import Wireframe.Proofs.Pipeline.Delivery
import Wireframe.Proofs.Pipeline.Questions
import Wireframe.Proofs.Reply.SampleClass
import Wireframe.Service.Request

/-!
# Where the files of a screen go

The name of a screen becomes the beginning of the names of its files and of its class. The default name
is checked to be an identifier; a name that a client gives is only short enough.

* `IsDirectChild` — paths that lead to a file of a directory itself.
* `identifierRules` — what counts as an identifier.
* `exists_named_reply_of_success` — the files of a successful run are named for its screen.
* `files_stay_in_place_iff` — which names keep the files in their directory and make a class.
* `climbing_name_is_accepted` — a name that does neither, and with which a run succeeds.
-/

set_option autoImplicit false

namespace Wireframe

open Reply Text

/-! ## Paths -/

/-- How paths are written. -/
inductive PathStyle where
  | slashes
  /-- A slash or a backslash may stand between two steps. -/
  | eitherSlash
  deriving DecidableEq, Repr

/-- The characters that separate the steps of a path. -/
def PathStyle.separators : PathStyle → List Char
  | slashes => ['/']
  | eitherSlash => ['/', '\\']

namespace PathStyle

variable {style : PathStyle}

/-- Part of a single step: no separator stands in it. -/
def IsUnbroken (style : PathStyle) (text : List Char) : Prop := ∀ c ∈ text, c ∉ style.separators

instance (text : List Char) : Decidable (style.IsUnbroken text) := List.decidableBAll _ text

theorem isUnbroken_append {text more : List Char} :
    style.IsUnbroken (text ++ more) ↔ style.IsUnbroken text ∧ style.IsUnbroken more :=
  List.forall_mem_append

theorem isCaseless_of_mem_separators {c : Char} (hc : c ∈ style.separators) :
    isCaseless c.toNat = true := by
  have hall : style.separators.all (isCaseless ·.toNat) = true := by cases style <;> decide +kernel
  exact List.all_eq_true.1 hall c hc

/-- No separator has case, so lower-casing neither takes one away nor brings one about. -/
theorem isUnbroken_lower_iff {text : List Char} :
    style.IsUnbroken (lower text) ↔ style.IsUnbroken text := by
  refine forall_congr' fun c => ?_
  by_cases hsep : c ∈ style.separators
  · rw [mem_lower_iff (isCaseless_of_mem_separators hsep)]
  · exact iff_of_true (fun _ => hsep) (fun _ => hsep)

end PathStyle

/-- A path that leads from a directory to a file of its own, by a single step that goes nowhere else. -/
def IsDirectChild (style : PathStyle) (directory path : String) : Prop :=
  ∃ name, path = directory ++ "/" ++ name ∧ name ∉ ["", ".", ".."] ∧ style.IsUnbroken name.toList

/-- A file goes into its directory exactly when no separator stands in the name of its screen. -/
theorem isDirectChild_fileName_iff (style : PathStyle) (directory : String) (k : FileKind)
    (name : List Char) :
    IsDirectChild style directory (directory ++ "/" ++ String.ofList (k.fileName name)) ↔
      style.IsUnbroken name := by
  have hsuffix : style.IsUnbroken k.suffix := by
    cases style <;> cases k <;> decide
  have hlong : 2 < (k.fileName name).length := by
    have hlength : 2 < k.suffix.length := by cases k <;> decide
    rw [FileKind.fileName, List.length_append]
    omega
  have hstep : String.ofList (k.fileName name) ∉ ["", ".", ".."] := by
    intro hmem
    have hshort : ∀ s ∈ ["", ".", ".."], s.toList.length ≤ 2 := by decide
    have := hshort _ hmem
    rw [String.toList_ofList] at this
    omega
  have hiff : style.IsUnbroken (k.fileName name) ↔ style.IsUnbroken name := by
    rw [FileKind.fileName, PathStyle.isUnbroken_append, and_iff_left hsuffix,
      PathStyle.isUnbroken_lower_iff]
  rw [← hiff]
  constructor
  · rintro ⟨file, hpath, -, hfile⟩
    obtain rfl : String.ofList (k.fileName name) = file := (String.append_right_inj _).1 hpath
    rwa [String.toList_ofList] at hfile
  · intro h
    exact ⟨_, rfl, hstep, by rwa [String.toList_ofList]⟩

/-! ## Identifiers -/

/-- What counts as an identifier: letters, digits and marks of any script, as for the default name of
screens, or those of ASCII and the dollar sign, as for names in generated code. -/
def identifierRules : List (List Char → Bool) := [isScriptIdentifier, Naming.isIdentifierText]

/-- Code points that no identifier holds: those that break a line or a mark, and the separators. -/
def foreignCodes : List Nat := breakCodes ++ [0x2f, 0x5c]

/-- What a rule for identifiers does: it lets in none of these, and a name that is one remains one, or
remains none, with a word behind it. -/
structure IsIdentifierRule (rule : List Char → Bool) : Prop where
  native : ∀ name, rule name = true → ∀ c ∈ name, c.toNat ∉ foreignCodes
  append : ∀ name, name ≠ [] → rule (name ++ "Component".toList) = rule name

/-- Rules that go by the first character and by every other one. -/
theorem isIdentifierRule_of_cons {rule : List Char → Bool} {start part : Char → Bool}
    (hcons : ∀ c rest, rule (c :: rest) = (start c && rest.all part))
    (hstart : ∀ c, start c = true → c.toNat ∉ foreignCodes)
    (hpart : ∀ c, part c = true → c.toNat ∉ foreignCodes)
    (hword : "Component".toList.all part = true) : IsIdentifierRule rule where
  native name h c hc := by
    cases name with
    | nil => cases hc
    | cons d rest =>
      rw [hcons, Bool.and_eq_true, List.all_eq_true] at h
      rcases List.mem_cons.1 hc with rfl | hmem
      · exact hstart c h.1
      · exact hpart c (h.2 c hmem)
  append name hne := by
    obtain ⟨c, rest, rfl⟩ := List.exists_cons_of_ne_nil hne
    rw [List.cons_append, hcons, hcons, List.all_append, hword, Bool.and_true]

theorem isIdentifierRule_of_mem {rule : List Char → Bool} (h : rule ∈ identifierRules) :
    IsIdentifierRule rule := by
  simp only [identifierRules, List.mem_cons, List.not_mem_nil, or_false] at h
  rcases h with rfl | rfl
  · have houtside : ∀ n ∈ foreignCodes, inRanges identifierStartRanges n = false ∧
        inRanges identifierPartRanges n = false := by decide +kernel
    refine isIdentifierRule_of_cons (fun _ _ => rfl) (fun c hc hforeign => ?_)
      (fun c hc hforeign => ?_) (by decide +kernel)
    · exact Bool.false_ne_true ((houtside _ hforeign).1.symm.trans hc)
    · exact Bool.false_ne_true ((houtside _ hforeign).2.symm.trans hc)
  · have hpart (c : Char) (hc : Naming.isIdentifierPart c = true) : c.toNat ∉ foreignCodes := by
      have hcodes := Naming.isIdentifierPart_iff.1 hc
      simp only [foreignCodes, breakCodes, List.cons_append, List.nil_append, List.mem_cons,
        List.not_mem_nil, or_false]
      rcases hcodes with h | h | rfl | rfl | h
      · omega
      · omega
      · decide
      · decide
      · omega
    refine isIdentifierRule_of_cons (fun _ _ => rfl) (fun c hc => hpart c ?_) hpart (by decide)
    rw [Naming.isIdentifierPart, hc, Bool.true_or]

namespace IsIdentifierRule

variable {rule : List Char → Bool} {name : List Char}

theorem isLineName (h : IsIdentifierRule rule) (hname : rule name = true) : IsLineName name :=
  fun c hc hbreak => h.native name hname c hc (List.mem_append_left _ hbreak)

theorem isUnbroken (h : IsIdentifierRule rule) (hname : rule name = true) (style : PathStyle) :
    style.IsUnbroken name := by
  have hall : style.separators.all (foreignCodes.contains ·.toNat) = true := by
    cases style <;> decide
  intro c hc hsep
  exact h.native name hname c hc (List.contains_iff_mem.1 (List.all_eq_true.1 hall c hsep))

end IsIdentifierRule

/-! ## The reply of a successful run -/

def Context.SameEntry (key : String) (d c : Context) : Prop := d.get? key = c.get? key

instance (key : String) : IsPreorder Context (Context.SameEntry key) where
  refl _ := rfl
  trans _ _ _ h h' := Eq.trans h h'

theorem Context.SameEntry.put {key other : String} (h : key ≠ other) (d : Datum) :
    Act.Keeps (SameEntry key) (Act.put other d) := fun c => by
  show (c.put other d).get? key = c.get? key
  rw [get?_put, if_neg h]

theorem Context.SameEntry.ask (key : String) (answer : Question → Except Failure String)
    (q : Question) : Act.Keeps (SameEntry key) (Act.ask answer q) :=
  .bind (.ofExcept _) fun _ => .bind (fun _ => rfl) fun _ => .bind (.ofExcept _) fun _ => .ofExcept _

/-- The stage that writes or asks for the reply leaves the design as it is. -/
theorem CodeStage.sameDesign_generateCode (b : Backend) :
    (CodeStage.generateCode b).Keeps (Context.SameEntry "design_ir") := by
  have hput (d : Datum) : Act.Keeps (Context.SameEntry "design_ir") (Act.put "model_text" d) :=
    .put (by decide) d
  refine Stage.keeps_ofAct (.bind (.need _) fun entry => ?_)
  split
  · exact .bind (.need _) fun _ => .bind (.find? _) fun _ => .bind (.ofExcept _) fun _ =>
      .bind (.ofExcept _) fun _ => .bind (hput _) fun _ => .pure _
  · exact .bind (.ofExcept _) fun _ => .bind (.need _) fun _ =>
      .bind (Context.SameEntry.ask _ _ _) fun _ => .bind (hput _) fun _ => .pure _

section Success

variable {b : Backend} {o : CodeOrder} {d : Design}

/-- A run that succeeds has a design with components. -/
theorem exists_design_of_success (h : (generateCode b o).success = true) :
    ∃ d, Design.ofLayout o.layout.toJson o.nameOrDefault = .ok d ∧ Prompt.checkDesign d = .ok () := by
  have herrors : (run (CodeStage.all b) o.context).errors = [] := List.isEmpty_iff.1 h
  cases hd : Design.ofLayout o.layout.toJson o.nameOrDefault with
  | error f =>
    have hstops := CodeStage.execute_convertLayout_of_error (c := o.context) rfl rfl hd
    exact absurd herrors (errors_run_cons_ne_nil hstops _)
  | ok d =>
    refine ⟨d, rfl, ?_⟩
    cases hcheck : Prompt.checkDesign d with
    | ok _ => rfl
    | error f =>
      have hstops := CodeStage.execute_compilePrompt_of_error (o.get?_prepared_design (d := d)) hcheck
      rw [CodeOrder.run_eq_run_prepared b hd (CodeOrder.screenName_ne hd), Ending.toContext_behind]
        at herrors
      exact absurd herrors (errors_run_cons_ne_nil hstops _)

/-- A successful run hands out the files of a reply that nothing is wrong with, named for the screen. -/
theorem exists_named_reply_of_success (h : (generateCode b o).success = true)
    (hd : Design.ofLayout o.layout.toJson o.nameOrDefault = .ok d)
    (hcheck : Prompt.checkDesign d = .ok ()) :
    ∃ reply, (extractFiles reply d.screenName.toList Settings.standard.minMarkupLength).errors = [] ∧
      (generateCode b o).HandsOut
        (extractFiles reply d.screenName.toList Settings.standard.minMarkupLength) := by
  have herrors : (run (CodeStage.all b) o.context).errors = [] := List.isEmpty_iff.1 h
  obtain ⟨prompt, hprompt⟩ := Prompt.codePrompt_standard hcheck (nodeInputs o.node d)
  let c := o.prompted d (String.ofList prompt)
  have hrun := run_eq_run_prompted hd hcheck hprompt b
  obtain ⟨hgenerates, hparses⟩ : (CodeStage.generateCode b).failure? c = none ∧
      CodeStage.parseReply.failure? ((CodeStage.generateCode b).leave c) = none := by
    rw [hrun, Ending.toContext_behind] at herrors
    have hpasses := passes_cons.1 (passes_of_errors_eq_nil herrors)
    exact ⟨hpasses.1, (passes_cons.1 hpasses.2).1⟩
  obtain ⟨reply, e, files, hdesign, hparse, hends⟩ := CodeStage.run_of_passes_parseReply hparses
  have hkept : ((CodeStage.generateCode b).leave c).get? "design_ir" = some (.design d) :=
    (CodeStage.sameDesign_generateCode b c).trans
      ((CodeOrder.get?_prompted_of_ne (by decide)).trans CodeOrder.get?_prepared_design)
  cases hkept.symm.trans hdesign
  obtain ⟨-, rfl⟩ := parse_eq_ok_iff.1 hparse
  have hfinished : (run (CodeStage.all b) o.context).toContext =
      ((CodeStage.generateCode b).leave c).finished
        (extractFiles reply d.screenName.toList Settings.standard.minMarkupLength) := by
    rw [hrun, Ending.toContext_behind, run_cons_of_pass hgenerates, Ending.toContext_after]
    exact hends
  rw [hfinished, errors_finished, List.append_eq_nil_iff] at herrors
  exact ⟨reply, herrors.2, handsOut_of_finished hfinished⟩

end Success

/-! ## What is written -/

/-- Every file goes into a directory itself. -/
def AreChildren (style : PathStyle) (directory : String) (exports : List ExportFile) : Prop :=
  ∀ e ∈ exports, IsDirectChild style (directoryPath directory) e.path

/-- The class among the files has a name that a rule lets pass. -/
def ExportsIdentifier (rule : List Char → Bool) (exports : List ExportFile) : Prop :=
  ∃ e ∈ exports, e.kind = .typescript ∧
    ∃ name, ExportsFirst e.content.toList name ∧ rule name = true

section Exports

variable {s : FileSet} {name : List Char} {body : FileKind → List Char}
  (hfile : ∀ k, s.file? k = some (fileOf name k (body k)))
  (hne : ∀ k, (fileOf name k (body k)).content ≠ "")

include hfile hne

/-- Files go into a directory exactly when no separator stands in the name that they begin with. -/
theorem areChildren_exports_iff (style : PathStyle) (directory : String) :
    AreChildren style directory (s.exports directory) ↔ style.IsUnbroken name := by
  have hpaths : AreChildren style directory (s.exports directory) ↔
      ∀ path ∈ (s.exports directory).map (·.path),
        IsDirectChild style (directoryPath directory) path := List.forall_mem_map.symm
  rw [hpaths, FileSet.exportPaths_eq hfile hne, List.forall_mem_map]
  constructor
  · exact fun h => (isDirectChild_fileName_iff style _ .typescript name).1 (h _ List.mem_cons_self)
  · exact fun h k _ => (isDirectChild_fileName_iff style _ k name).2 h

variable {f : GeneratedFile} {className : List Char}

/-- The class that is written is the one that is read from its block. -/
theorem exportsFirst_exports (hf : s.file? .typescript = some f)
    (hclass : ExportsFirst f.content.toList className) (directory : String) :
    ∃ e ∈ s.exports directory, e.kind = .typescript ∧ ExportsFirst e.content.toList className := by
  obtain rfl : fileOf name .typescript (body .typescript) = f :=
    Option.some_inj.1 ((hfile .typescript).symm.trans hf)
  rw [FileSet.exports_eq hfile hne]
  exact ⟨_, List.mem_map.2 ⟨.typescript, List.mem_cons_self, rfl⟩, rfl, hclass⟩

/-- There is no other class among the files. -/
theorem exportsIdentifier_exports_iff (hf : s.file? .typescript = some f)
    (hclass : ExportsFirst f.content.toList className) (rule : List Char → Bool) (directory : String) :
    ExportsIdentifier rule (s.exports directory) ↔ rule className = true := by
  constructor
  · rintro ⟨e, he, hkind, other, hother, hrule⟩
    obtain rfl : fileOf name .typescript (body .typescript) = f :=
      Option.some_inj.1 ((hfile .typescript).symm.trans hf)
    rw [FileSet.exports_eq hfile hne] at he
    obtain ⟨k, -, rfl⟩ := List.mem_map.1 he
    obtain rfl : k = .typescript := hkind
    rw [hclass.unique hother]
    exact hrule
  · intro hrule
    obtain ⟨e, he, hkind, hexports⟩ := exportsFirst_exports hfile hne hf hclass directory
    exact ⟨e, he, hkind, className, hexports, hrule⟩

end Exports

/-! ## Names that a client gives -/

/-- What comes of the name of a screen: the names of its files begin with it, so they go into their
directory as long as no separator stands in it, and so does the name of the class in a sample. -/
structure CodeRun.IsNamedFor (r : CodeRun) (name : String) (sample : Bool) (s : FileSet) : Prop where
  files : r.files = some s
  exports : r.exports = s.exports Settings.standard.outputDir
  paths : ∀ directory, (s.exports directory).map (·.path) = FileKind.all.map fun k =>
    directoryPath directory ++ "/" ++ String.ofList (k.fileName name.toList)
  children : ∀ style directory, AreChildren style directory (s.exports directory) ↔
    style.IsUnbroken name.toList
  className : sample = true → IsLineName name.toList → ∃ e ∈ r.exports, e.kind = .typescript ∧
    ExportsFirst e.content.toList (name.toList ++ "Component".toList)
  identifier : sample = true → IsLineName name.toList → ∀ rule ∈ identifierRules,
    (ExportsIdentifier rule r.exports ↔ rule name.toList = true)

/-- A successful run is named for its screen. -/
theorem exists_isNamedFor_of_success {b : Backend} {o : CodeOrder}
    (h : (generateCode b o).success = true) : ∃ name s, o.nameOrDefault = .str name ∧ name ≠ "" ∧
      (generateCode b o).IsNamedFor name o.sample s := by
  obtain ⟨d, hd, hcheck⟩ := exists_design_of_success h
  have hne : d.screenName ≠ "" := CodeOrder.screenName_ne hd
  obtain ⟨reply, herrors, hout⟩ := exists_named_reply_of_success h hd hcheck
  obtain ⟨body, hbody⟩ := exists_bodies (errors_eq_nil_iff.1 herrors)
  have hfile (k : FileKind) := (hbody k).1
  have hcontent (k : FileKind) := (hbody k).2
  have hclass (hsample : o.sample = true) (hname : IsLineName d.screenName.toList) :
      ∃ f, (extractFiles reply d.screenName.toList Settings.standard.minMarkupLength).file?
        .typescript = some f ∧
          ExportsFirst f.content.toList (d.screenName.toList ++ "Component".toList) := by
    have hfiles : extractFiles reply d.screenName.toList Settings.standard.minMarkupLength =
        sampleFiles d (nodeInputs o.node d) :=
      Option.some_inj.1 (hout.files.symm.trans (isSample_of_component b hsample hd hcheck
        (isTorn_sampleFiles_of_success b hsample hd hcheck h)).2.files)
    rw [hfiles]
    exact exportsFirst_sampleReply hname _ _
  refine ⟨d.screenName, _, CodeOrder.nameOrDefault_eq hd, hne, hout.files, hout.exports,
    FileSet.exportPaths_eq hfile hcontent, areChildren_exports_iff hfile hcontent, ?_, ?_⟩
  · intro hsample hname
    obtain ⟨f, hf, hexports⟩ := hclass hsample hname
    rw [hout.exports]
    exact exportsFirst_exports hfile hcontent hf hexports _
  · intro hsample hname rule hrule
    obtain ⟨f, hf, hexports⟩ := hclass hsample hname
    rw [hout.exports, exportsIdentifier_exports_iff hfile hcontent hf hexports,
      (isIdentifierRule_of_mem hrule).append _ (String.toList_eq_nil_iff.not.2 hne)]

/-- **The files of a successful run stay in their directory exactly when no separator stands in the name
of the screen**, however paths are written; and of a sample, the class has an identifier for a name
exactly when the name of the screen is one, if only that stays in one line and holds no part of a mark.
So both are so for every name that would do as the default, and neither needs to be for the
others, which a client may give just as well. -/
theorem files_stay_in_place_iff {b : Backend} {o : CodeOrder} (h : (generateCode b o).success = true) :
    ∃ name s, o.nameOrDefault = .str name ∧ name ≠ "" ∧
      (generateCode b o).IsNamedFor name o.sample s ∧
      ∀ rule ∈ identifierRules, rule name.toList = true →
        (∀ style directory, AreChildren style directory (s.exports directory)) ∧
          (o.sample = true → ExportsIdentifier rule (generateCode b o).exports) := by
  obtain ⟨name, s, hname, hne, hnamed⟩ := exists_isNamedFor_of_success h
  refine ⟨name, s, hname, hne, hnamed, fun rule hrule hidentifier => ?_⟩
  have hlaws := isIdentifierRule_of_mem hrule
  constructor
  · exact fun style directory =>
      (hnamed.children style directory).2 (hlaws.isUnbroken hidentifier style)
  · exact fun hsample =>
      (hnamed.identifier hsample (hlaws.isLineName hidentifier) rule hrule).2 hidentifier

theorem files_stay_in_place_iff_login :
    let o := singleOrder "Login" "heading" "Sign in"
    let r := generateCode .unconfigured o
    r.success = true ∧ ∃ s, r.IsNamedFor "Login" o.sample s ∧
      (∀ style directory, AreChildren style directory (s.exports directory)) ∧
        ∀ rule ∈ identifierRules, ExportsIdentifier rule r.exports := by
  intro o r
  obtain ⟨name, s, hname, -, hnamed, hplaced⟩ := files_stay_in_place_iff (o := o) success_signIn
  obtain rfl : "Login" = name :=
    Json.str.inj ((nameOrDefault_singleOrder (by decide) _ _).symm.trans hname)
  have hrules : ∀ rule ∈ identifierRules, rule "Login".toList = true := by decide +kernel
  refine ⟨success_signIn, s, hnamed, ?_,
    fun rule hrule => (hplaced rule hrule (hrules rule hrule)).2 rfl⟩
  exact (hplaced isScriptIdentifier List.mem_cons_self (hrules _ List.mem_cons_self)).1

/-- What a client sends for a sample of a screen with a heading. -/
def headingRequest (name : String) : Json :=
  .obj [("layoutDocument", .obj [("components", .arr [.obj (singleFields "heading" "Sign in")])]),
    ("screenName", .str name), ("testMode", .bool true)]

/-- A name that climbs out of the directory is accepted: its files go elsewhere, and its class has a name
that no rule lets pass. -/
theorem climbing_name_is_accepted :
    let o := singleOrder "Admin/../../Login" "heading" "Sign in"
    let r := generateCode .unconfigured o
    CodeOrder.read (headingRequest "Admin/../../Login") = .ok o ∧ r.success = true ∧
      r.exports.map (·.path) = ["./src/app/components/admin/../../login.component.ts",
        "./src/app/components/admin/../../login.component.html",
        "./src/app/components/admin/../../login.component.scss"] ∧
      (∀ style, ¬AreChildren style Settings.standard.outputDir r.exports) ∧
      (∃ e ∈ r.exports, e.kind = .typescript ∧
        ExportsFirst e.content.toList "Admin/../../LoginComponent".toList) ∧
      ∀ rule ∈ identifierRules, ¬ExportsIdentifier rule r.exports := by
  intro o r
  have hsuccess : r.success = true := success_singleOrder (by decide) (by decide +kernel)
  obtain ⟨name, s, hname, -, hnamed⟩ := exists_isNamedFor_of_success (o := o) hsuccess
  obtain rfl : "Admin/../../Login" = name :=
    Json.str.inj ((nameOrDefault_singleOrder (by decide) _ _).symm.trans hname)
  have hline : IsLineName "Admin/../../Login".toList := by decide
  refine ⟨rfl, hsuccess, ?_, fun style => ?_, hnamed.className rfl hline, fun rule hrule => ?_⟩
  · rw [hnamed.exports, hnamed.paths]
    decide +kernel
  · rw [hnamed.exports, hnamed.children]
    cases style <;> decide
  · rw [hnamed.identifier rfl hline rule hrule]
    revert rule
    decide +kernel

end Wireframe
