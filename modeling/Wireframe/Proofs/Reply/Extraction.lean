import Wireframe.Proofs.Reply.Fence
import Wireframe.Reply.Extraction

/-!
# Which block becomes which file

* `assign_of_labels` — blocks that are labelled with the names of the files become these files.
* `extractFiles_of_spans` — what is read from a reply with a fence for every file.
* `parse_eq_ok_iff`, `parse_of_isTorn` — what is taken out of a reply, and when nothing is.
-/

set_option autoImplicit false

namespace Wireframe

theorem FileKind.mem_all (k : FileKind) : k ∈ FileKind.all := by
  cases k <;> decide

def FileSet.isTorn (s : FileSet) : Bool := s.present.any fun f => Text.isTorn f.content.toList

end Wireframe

namespace Wireframe.Reply

open Wireframe.Text

variable {base : List Char} {blocks : List Block} {sign : Sign} {a : Assignment} {k : FileKind}
  {b : Block}

/-! ## Giving blocks to files -/

theorem Assignment.give_of_block (h : a.block? k = some b) : a.give base blocks sign k = a := by
  unfold give
  rw [h]

theorem Assignment.give_of_find (h : a.block? k = none)
    (hfind : findBlock base blocks a.claimed sign k = some b) :
    a.give base blocks sign k = a ++ [(k, b)] := by
  unfold give
  rw [h, hfind]

/-- When every file has a block, a further pass changes nothing. -/
theorem Assignment.pass_of_full (h : ∀ k, ∃ b, a.block? k = some b) (base : List Char)
    (blocks : List Block) (sign : Sign) : a.pass base blocks sign = a := by
  unfold pass
  induction FileKind.all with
  | nil => rfl
  | cons k rest ih =>
    obtain ⟨b, hb⟩ := h k
    rw [List.foldl_cons, give_of_block hb, ih]

/-- Three blocks labelled with the names of the three files, in order, become these files. -/
theorem assign_of_labels (base : List Char) {b₀ b₁ b₂ : Block} (h₀ : b₀.index = 0) (h₁ : b₁.index = 1)
    (h₂ : b₂.index = 2) (htypescript : b₀.label = "typescript".toList)
    (hhtml : b₁.label = "html".toList) (hscss : b₂.label = "scss".toList) :
    assign base [b₀, b₁, b₂] = [(.typescript, b₀), (.html, b₁), (.scss, b₂)] := by
  have hfirst : findBlock base [b₀, b₁, b₂] [] .label .typescript = some b₀ := by
    simp [findBlock, Sign.holds, FileKind.labels, htypescript]
  have hsecond : findBlock base [b₀, b₁, b₂] [b₀.index] .label .html = some b₁ := by
    simp [findBlock, Sign.holds, FileKind.labels, h₀, h₁, hhtml]
  have hthird : findBlock base [b₀, b₁, b₂] [b₀.index, b₁.index] .label .scss = some b₂ := by
    simp [findBlock, Sign.holds, FileKind.labels, h₀, h₁, h₂, hscss]
  have hlabels : Assignment.pass base [b₀, b₁, b₂] [] .label =
      [(.typescript, b₀), (.html, b₁), (.scss, b₂)] := by
    unfold Assignment.pass FileKind.all
    rw [List.foldl_cons, Assignment.give_of_find rfl hfirst, List.foldl_cons,
      Assignment.give_of_find rfl hsecond, List.foldl_cons, Assignment.give_of_find rfl hthird]
    rfl
  have hfull (k : FileKind) :
      ∃ b, Assignment.block? [(.typescript, b₀), (.html, b₁), (.scss, b₂)] k = some b := by
    cases k
    · exact ⟨b₀, rfl⟩
    · exact ⟨b₁, rfl⟩
    · exact ⟨b₂, rfl⟩
  unfold assign Sign.all
  rw [List.foldl_cons, hlabels, List.foldl_cons, Assignment.pass_of_full hfull, List.foldl_cons,
    Assignment.pass_of_full hfull, List.foldl_nil]

/-! ## Files and issues -/

/-- What is wrong with the content of a file. -/
def issuesIn (minLength : Int) (k : FileKind) (content : List Char) : List FileIssue :=
  if content = [] then [contentError k s!"Empty {k.name} file content"]
  else
    match k with
    | .typescript => classIssues content
    | .html => templateIssues minLength content
    | .scss => []

theorem topic_of_mem_issuesIn {minLength : Int} {content : List Char} {i : FileIssue}
    (h : i ∈ issuesIn minLength k content) : i.topic = .content := by
  have hunless {condition : Bool} {issue : FileIssue} (hi : i ∈ unlessHolds condition issue)
      (htopic : issue.topic = .content) : i.topic = .content := by
    unfold unlessHolds at hi
    split at hi
    · cases hi
    · rw [List.mem_singleton.1 hi, htopic]
  unfold issuesIn at h
  split at h
  · rw [List.mem_singleton.1 h]
    rfl
  · split at h
    · simp only [classIssues, List.mem_append] at h
      rcases h with (h | h) | h <;> exact hunless h rfl
    · simp only [templateIssues, List.mem_append] at h
      rcases h with h | h <;> exact hunless h rfl
    · cases h

theorem contentIssues_fileOf (minLength : Int) (base : List Char) (k : FileKind) (body : List Char) :
    contentIssues minLength (fileOf base k body) = issuesIn minLength k (contentOf k body) := by
  have hempty : String.ofList (contentOf k body) = "" ↔ contentOf k body = [] := by
    rw [← String.toList_inj, String.toList_ofList]
    rfl
  unfold contentIssues issuesIn fileOf
  cases k <;> simp only [hempty, String.toList_ofList]

/-- The block of a reply that a file gets. -/
def blockFor? (reply base : List Char) (k : FileKind) : Option Block :=
  (assign base (Reply.blocks reply)).block? k

/-- The issues of a reply by its blocks: which files are missing, and what is wrong with the content
of the others. -/
def replyIssues (reply base : List Char) (minLength : Int) : List FileIssue :=
  (FileKind.all.filter fun k => (blockFor? reply base k).isNone).map missingFile ++
    FileKind.all.flatMap fun k =>
      ((blockFor? reply base k).map fun b => issuesIn minLength k (contentOf k b.body)).getD []

theorem issues_extractFiles (reply base : List Char) (minLength : Int) :
    (extractFiles reply base minLength).issues = replyIssues reply base minLength := by
  have hsome (ks : List FileKind) :
      (ks.filterMap fun k => (blockFor? reply base k).map fun b => fileOf base k b.body).flatMap
          (contentIssues minLength) =
        ks.flatMap fun k => ((blockFor? reply base k).map fun b =>
          issuesIn minLength k (contentOf k b.body)).getD [] := by
    induction ks with
    | nil => rfl
    | cons k ks ih =>
      rw [List.flatMap_cons, ← ih]
      cases h : blockFor? reply base k with
      | none => simp [h]
      | some b => simp [h, contentIssues_fileOf]
  rw [replyIssues, ← hsome]
  simp only [extractFiles, Option.isNone_map, blockFor?]

theorem file?_extractFiles (reply base : List Char) (minLength : Int) (k : FileKind) :
    (extractFiles reply base minLength).file? k =
      (blockFor? reply base k).map fun b => fileOf base k b.body := by
  cases k <;> simp only [extractFiles, FileSet.file?, blockFor?]

/-- A set in which no file is missing has the names of the files of its screen. -/
theorem fileNames_present {s : FileSet} {body : FileKind → List Char}
    (h : ∀ k, s.file? k = some (fileOf base k (body k))) :
    s.present.map (·.fileName.toList) = FileKind.all.map (·.fileName base) := by
  simp only [FileSet.present, FileKind.all, List.filterMap_cons, List.filterMap_nil, h, List.map_cons,
    List.map_nil, fileOf, String.toList_ofList]

/-- The name of a file stands for it as a label. -/
theorem labelOf_name (k : FileKind) : labelOf k.name.toList = k.name.toList := by
  cases k <;> decide

/-- A reply with a fence for every file, in order and labelled with its name, gives every file the
body of its fence, and no other issues than those about the contents. -/
theorem extractFiles_of_spans {reply : List Char} {span : FileKind → Span}
    (hspans : spans reply = FileKind.all.map span)
    (hlabels : ∀ k, labelOf (span k).header = k.name.toList) (base : List Char) (minLength : Int) :
    (∀ k, (extractFiles reply base minLength).file? k = some (fileOf base k (span k).body)) ∧
      (extractFiles reply base minLength).issues =
        FileKind.all.flatMap fun k => issuesIn minLength k (contentOf k (span k).body) := by
  obtain ⟨b₀, b₁, b₂, hblocks, ⟨h₀, hlabel₀, hbody₀⟩, ⟨h₁, hlabel₁, hbody₁⟩, h₂, hlabel₂, hbody₂⟩ :
      ∃ b₀ b₁ b₂, blocks reply = [b₀, b₁, b₂] ∧
        (b₀.index = 0 ∧ b₀.label = "typescript".toList ∧ b₀.body = (span .typescript).body) ∧
        (b₁.index = 1 ∧ b₁.label = "html".toList ∧ b₁.body = (span .html).body) ∧
        b₂.index = 2 ∧ b₂.label = "scss".toList ∧ b₂.body = (span .scss).body := by
    unfold blocks
    rw [hspans]
    exact ⟨_, _, _, rfl, ⟨rfl, hlabels .typescript, rfl⟩, ⟨rfl, hlabels .html, rfl⟩, rfl,
      hlabels .scss, rfl⟩
  have hassign := assign_of_labels base h₀ h₁ h₂ hlabel₀ hlabel₁ hlabel₂
  have hblock (k : FileKind) : ∃ b, blockFor? reply base k = some b ∧ b.body = (span k).body := by
    unfold blockFor?
    rw [hblocks, hassign]
    cases k
    · exact ⟨b₀, rfl, hbody₀⟩
    · exact ⟨b₁, rfl, hbody₁⟩
    · exact ⟨b₂, rfl, hbody₂⟩
  refine ⟨fun k => ?_, ?_⟩
  · obtain ⟨b, hb, hbody⟩ := hblock k
    rw [file?_extractFiles, hb, Option.map_some, hbody]
  · have hnone (k : FileKind) : (blockFor? reply base k).isNone = false := by
      obtain ⟨b, hb, -⟩ := hblock k
      rw [hb, Option.isNone_some]
    have hissues (k : FileKind) : ((blockFor? reply base k).map fun b =>
        issuesIn minLength k (contentOf k b.body)).getD [] =
        issuesIn minLength k (contentOf k (span k).body) := by
      obtain ⟨b, hb, hbody⟩ := hblock k
      rw [hb, Option.map_some, Option.getD_some, hbody]
    rw [issues_extractFiles, replyIssues]
    simp only [hnone, hissues]
    rfl

/-! ## Taking a reply apart -/

section Parsing

variable {reply base : List Char} {minLength : Int}

theorem tearIn?_eq_none_iff {s : FileSet} : tearIn? s.present = none ↔ s.isTorn = false := by
  rw [tearIn?, List.findSome?_eq_none_iff, FileSet.isTorn, List.any_eq_false]
  simp only [tear?_eq_none_iff, Bool.not_eq_true]

/-- What is taken out of a reply, unless the content of a file is torn. -/
theorem parse_eq_ok_iff {s : FileSet} : parse reply base minLength = .ok s ↔
    (extractFiles reply base minLength).isTorn = false ∧ s = extractFiles reply base minLength := by
  unfold parse
  dsimp only
  cases h : tearIn? (extractFiles reply base minLength).present with
  | none =>
    rw [← tearIn?_eq_none_iff, h]
    simp [eq_comm]
  | some t =>
    have htorn : (extractFiles reply base minLength).isTorn ≠ false :=
      fun hf => by rw [tearIn?_eq_none_iff.2 hf] at h; cases h
    simp [htorn]

theorem parse_of_isTorn (h : (extractFiles reply base minLength).isTorn = true) :
    ∃ t, parse reply base minLength = .error (.unencodable t) := by
  unfold parse
  dsimp only
  cases htear : tearIn? (extractFiles reply base minLength).present with
  | none => rw [tearIn?_eq_none_iff.1 htear] at h; cases h
  | some t => exact ⟨t, rfl⟩

/-- A set of files is torn where the file of some kind is. -/
theorem isTorn_eq_false_iff_forall {s : FileSet} :
    s.isTorn = false ↔ ∀ k f, s.file? k = some f → isTorn f.content.toList = false := by
  simp only [FileSet.isTorn, FileSet.present, List.any_eq_false, List.mem_filterMap, Bool.not_eq_true]
  exact ⟨fun h k f hf => h f ⟨k, k.mem_all, hf⟩, fun h f ⟨k, _, hf⟩ => h k f hf⟩

/-- The files of a reply are torn where the content is of a block that is given to one. -/
theorem isTorn_extractFiles_iff : (extractFiles reply base minLength).isTorn = false ↔
    ∀ k b, blockFor? reply base k = some b → isTorn (contentOf k b.body) = false := by
  rw [isTorn_eq_false_iff_forall]
  refine forall_congr' fun k => ?_
  rw [file?_extractFiles]
  cases blockFor? reply base k with
  | none => exact iff_of_true nofun nofun
  | some b => simp only [Option.map_some, Option.some.injEq, forall_eq', fileOf, String.toList_ofList]

/-- A set of files that come from blocks is torn where one of their contents is. -/
theorem isTorn_eq_false_iff_of_files {s : FileSet} {body : FileKind → List Char}
    (h : ∀ k, s.file? k = some (fileOf base k (body k))) :
    s.isTorn = false ↔ ∀ k, isTorn (contentOf k (body k)) = false := by
  rw [isTorn_eq_false_iff_forall]
  refine forall_congr' fun k => ?_
  simp only [h, Option.some.injEq, forall_eq', fileOf, String.toList_ofList]

/-- What is taken out of a reply with a file of every kind: these files when their contents are whole,
and nothing when one is torn. -/
theorem parse_of_files {body : FileKind → List Char}
    (h : ∀ k, (extractFiles reply base minLength).file? k = some (fileOf base k (body k))) :
    ((∀ k, isTorn (contentOf k (body k)) = false) →
        parse reply base minLength = .ok (extractFiles reply base minLength)) ∧
      ∀ k, isTorn (contentOf k (body k)) = true →
        ∃ t, parse reply base minLength = .error (.unencodable t) := by
  refine ⟨fun hwhole => parse_eq_ok_iff.2 ⟨(isTorn_eq_false_iff_of_files h).2 hwhole, rfl⟩,
    fun k htorn => parse_of_isTorn ?_⟩
  rw [← Bool.not_eq_false, isTorn_eq_false_iff_of_files h]
  intro hwhole
  rw [hwhole k] at htorn
  cases htorn

end Parsing

end Wireframe.Reply
