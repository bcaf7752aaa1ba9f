import Mathlib.Data.List.Nodup
import Wireframe.Proofs.Pipeline.SampleSuccess
import Wireframe.Proofs.Reply.Completeness

/-!
# What a successful run hands out

A run for code succeeds when no stage fails and nothing is wrong with the reply. The files, the list of
what is to be written and the summary are made one after another, each with a filter of its own; of
a complete component they all show the three files.

* `FileSet.exports_eq`, `FileSet.exportPaths_eq` — what is to be written of a complete component.
* `CodeStage.leads_of_parseReply` — what it takes to read a reply.
* `exists_reply_of_success` — a successful run ends with the files of a reply without issues.
* `accepted_component_is_whole` — the three views of a component agree.
-/

set_option autoImplicit false

namespace Wireframe

open Reply

/-! ## Complete components -/

namespace FileSet

variable {s : FileSet} {file : FileKind → GeneratedFile} {base : List Char}

/-- A set that has every file. -/
theorem present_eq (h : ∀ k, s.file? k = some (file k)) : s.present = FileKind.all.map file := by
  simp only [present, FileKind.all, List.filterMap_cons, List.filterMap_nil, h, List.map_cons,
    List.map_nil]

/-- Nothing of a set without empty files is left out. -/
theorem exports_eq (h : ∀ k, s.file? k = some (file k)) (hne : ∀ k, (file k).content ≠ "")
    (directory : String) :
    s.exports directory = FileKind.all.map fun k =>
      ⟨directoryPath directory ++ "/" ++ (file k).fileName, (file k).content, (file k).kind⟩ := by
  have hkept : ∀ f ∈ FileKind.all.map file, (f.content != "") = true :=
    List.forall_mem_map.2 fun k _ => bne_iff_ne.2 (hne k)
  rw [exports, present_eq h, List.filter_eq_self.2 hkept, List.map_map]
  rfl

/-- The files of a screen are told apart by their extensions. -/
theorem fileName_injective (base : List Char) : Function.Injective (FileKind.fileName · base) := by
  intro k l h
  have hsuffix : k.suffix = l.suffix := List.append_cancel_left h
  revert hsuffix
  cases k <;> cases l <;> decide

section Places

variable {body : FileKind → List Char} (h : ∀ k, s.file? k = some (fileOf base k (body k)))
  (hne : ∀ k, (fileOf base k (body k)).content ≠ "")

include h hne

/-- The places that the files of a reply are written to. -/
theorem exportPaths_eq (directory : String) : (s.exports directory).map (·.path) =
    FileKind.all.map fun k => directoryPath directory ++ "/" ++ String.ofList (k.fileName base) := by
  rw [exports_eq h hne, List.map_map]
  rfl

/-- The files of a reply are written to different places. -/
theorem nodup_exportPaths (directory : String) : ((s.exports directory).map (·.path)).Nodup := by
  rw [exportPaths_eq h hne]
  refine List.Nodup.map ?_ (by decide)
  intro k l hpath
  have hname : String.ofList (k.fileName base) = String.ofList (l.fileName base) :=
    (String.append_right_inj _).1 hpath
  exact fileName_injective base (String.ofList_injective hname)

end Places

end FileSet

/-! ## Stages that pass -/

namespace CodeStage

variable {c : Context}

/-- Where a reply is read, there is a design, and the files for its screen are kept with everything
found wrong. -/
theorem leads_of_parseReply (h : parseReply.failure? c = none) : ∃ reply d files,
    c.get? "design_ir" = some (.design d) ∧
      parse reply d.screenName.toList Settings.standard.minMarkupLength = .ok files ∧
      parseReply.Leads c (c.withFiles files) := by
  obtain ⟨v, next, hrun⟩ := Stage.run_of_passes_ofAct h
  obtain ⟨reply, _, hreply, hbehind⟩ := Act.run_bind_eq_ok hrun
  obtain ⟨-, rfl⟩ := Act.run_need_eq_ok hreply
  obtain ⟨entry, _, hentry, hread⟩ := Act.run_bind_eq_ok hbehind
  obtain ⟨hdesign, rfl⟩ := Act.run_need_eq_ok hentry
  obtain ⟨d, _, hd, hparsed⟩ := Act.run_bind_eq_ok hread
  obtain ⟨hasDesign, rfl⟩ := Act.run_ofExcept_eq_ok hd
  obtain rfl : entry = .design d := by
    cases entry <;> cases hasDesign
    rfl
  obtain ⟨files, _, hfiles, hkept⟩ := Act.run_bind_eq_ok hparsed
  obtain ⟨hparse, rfl⟩ := Act.run_ofExcept_eq_ok hfiles
  cases hkept
  exact ⟨_, d, files, hdesign, hparse, Stage.leads_ofAct hrun⟩

/-- Where a reply is read, the run is finished with the files in it, named for the screen of the
design. -/
theorem run_of_passes_parseReply (h : parseReply.failure? c = none) : ∃ reply d files,
    c.get? "design_ir" = some (.design d) ∧
      parse reply d.screenName.toList Settings.standard.minMarkupLength = .ok files ∧
      (run [parseReply, exportFiles] c).toContext = c.finished files := by
  obtain ⟨reply, d, files, hdesign, hparse, hleads⟩ := leads_of_parseReply h
  have hfound : (c.withFiles files).get? "generated_files" = some (.files files) := by
    simp [Context.withFiles, Context.get?_put]
  refine ⟨reply, d, files, hdesign, hparse, ?_⟩
  rw [run_cons_of_leads hleads, run_cons_of_leads (leads_exportFiles hfound)]
  rfl

/-- When all stages pass, there is a reply, and the run is finished with the files in it. -/
theorem run_of_passes_all {b : Backend} (h : Passes (all b) c) : ∃ before reply base files,
    parse reply base Settings.standard.minMarkupLength = .ok files ∧
      (run (all b) c).toContext = (effects before c).finished files := by
  have hearly : Passes (early b) c := fun before s after hsplit =>
    h before s (after ++ [parseReply, exportFiles]) (by rw [all_eq, hsplit]; simp)
  obtain ⟨reply, d, files, -, hparse, hrun⟩ :=
    run_of_passes_parseReply (h (early b) parseReply [exportFiles] (all_eq b))
  refine ⟨early b, reply, d.screenName.toList, files, hparse, ?_⟩
  rw [all_eq, run_append_of_passes hearly, Ending.toContext_behind, hrun]

end CodeStage

/-! ## Successful runs -/

theorem errors_finished (c : Context) (files : FileSet) :
    (c.finished files).errors = c.errors ++ files.errors := rfl

/-- A successful run hands out the files of a reply that nothing is wrong with. -/
theorem exists_reply_of_success {b : Backend} {o : CodeOrder} (h : (generateCode b o).success = true) :
    ∃ reply base, (extractFiles reply base Settings.standard.minMarkupLength).errors = [] ∧
      (generateCode b o).HandsOut (extractFiles reply base Settings.standard.minMarkupLength) := by
  have herrors : (run (CodeStage.all b) o.context).errors = [] := List.isEmpty_iff.1 h
  obtain ⟨before, reply, base, files, hparse, hrun⟩ :=
    CodeStage.run_of_passes_all (passes_of_errors_eq_nil herrors)
  obtain ⟨-, rfl⟩ := parse_eq_ok_iff.1 hparse
  rw [hrun, errors_finished, List.append_eq_nil_iff] at herrors
  exact ⟨reply, base, herrors.2, handsOut_of_finished hrun⟩

/-- What a client gets of a run that is a success: all three files, in order, each to be written with
the content that it has, to a place of its own, and counted and measured as what they are. -/
structure CodeRun.IsWhole (r : CodeRun) (s : FileSet) : Prop where
  files : r.files = some s
  complete : s.IsComplete Settings.standard.minMarkupLength
  kinds : r.exports.map (·.kind) = [.typescript, .html, .scss]
  contents : ∀ e ∈ r.exports, (s.file? e.kind).map (·.content) = some e.content
  places : (r.exports.map (·.path)).Nodup
  count : r.summary.bind (·.field? "filesExtracted") = some (.ofNat 3)
  size : r.summary.bind (·.field? "totalSize") =
    some (.ofNat (r.exports.foldr (fun e total => e.content.utf8ByteSize + total) 0))

/-- The files of a complete reply come from the bodies of its blocks. -/
theorem exists_bodies {reply base : List Char} {minLength : Int}
    (h : (extractFiles reply base minLength).IsComplete minLength) :
    ∃ body : FileKind → List Char, ∀ k,
      (extractFiles reply base minLength).file? k = some (fileOf base k (body k)) ∧
        (fileOf base k (body k)).content ≠ "" := by
  have hbody (k : FileKind) : ∃ body,
      (extractFiles reply base minLength).file? k = some (fileOf base k body) ∧
        (fileOf base k body).content ≠ "" := by
    obtain ⟨f, hf, hcontent⟩ := h k
    rw [file?_extractFiles, Option.map_eq_some_iff] at hf
    obtain ⟨b, hb, rfl⟩ := hf
    refine ⟨b.body, ?_, hcontent.ne_empty⟩
    rw [file?_extractFiles, hb, Option.map_some]
  exact Classical.skolem.1 hbody

/-- A run that hands out the files of a reply without errors is whole. -/
theorem CodeRun.HandsOut.isWhole {r : CodeRun} {reply base : List Char}
    (h : r.HandsOut (extractFiles reply base Settings.standard.minMarkupLength))
    (herrors : (extractFiles reply base Settings.standard.minMarkupLength).errors = []) :
    r.IsWhole (extractFiles reply base Settings.standard.minMarkupLength) := by
  have hcomplete := errors_eq_nil_iff.1 herrors
  obtain ⟨body, hbody⟩ := exists_bodies hcomplete
  have hfile (k : FileKind) := (hbody k).1
  have hne (k : FileKind) := (hbody k).2
  have hexports := h.exports.trans (FileSet.exports_eq hfile hne _)
  refine ⟨h.files, hcomplete, ?_, ?_, ?_, ?_, ?_⟩
  · rw [hexports]
    rfl
  · rw [hexports]
    refine List.forall_mem_map.2 fun k _ => ?_
    show ((extractFiles reply base Settings.standard.minMarkupLength).file? k).map (·.content) = _
    rw [hfile k]
    rfl
  · rw [h.exports]
    exact FileSet.nodup_exportPaths hfile hne _
  · have hcount : (extractFiles reply base Settings.standard.minMarkupLength).present.length = 3 := by
      rw [FileSet.present_eq hfile]
      rfl
    rw [h.summary, Option.bind_some, ← hcount]
    rfl
  · have hsize : (extractFiles reply base Settings.standard.minMarkupLength).totalSize =
        r.exports.foldr (fun e total => e.content.utf8ByteSize + total) 0 := by
      rw [hexports, FileSet.totalSize, FileSet.present_eq hfile, List.foldr_map, List.foldr_map]
      rfl
    rw [h.summary, Option.bind_some, ← hsize]
    rfl

/-- **A reply without errors holds a complete component, and a successful run hands one out.** A reply
is taken apart, unless the content of a block that a file gets is torn, and it is free of errors exactly
when its files are complete. -/
theorem accepted_component_is_whole (reply base : List Char) (minLength : Int) (b : Backend)
    (o : CodeOrder) :
    ((∀ k blk, blockFor? reply base k = some blk → Text.isTorn (contentOf k blk.body) = false) →
        ∃ s, parse reply base minLength = .ok s ∧ (s.errors = [] ↔ s.IsComplete minLength)) ∧
      (∀ k blk, blockFor? reply base k = some blk → Text.isTorn (contentOf k blk.body) = true →
        ∃ t, parse reply base minLength = .error (.unencodable t)) ∧
      ((generateCode b o).success = true → ∃ s, (generateCode b o).IsWhole s) := by
  refine ⟨fun hwhole => ?_, fun k blk hblk htorn => parse_of_isTorn ?_, fun h => ?_⟩
  · exact ⟨_, parse_eq_ok_iff.2 ⟨isTorn_extractFiles_iff.2 hwhole, rfl⟩, errors_eq_nil_iff⟩
  · rw [← Bool.not_eq_false, isTorn_extractFiles_iff]
    intro hwhole
    rw [hwhole k blk hblk] at htorn
    cases htorn
  · obtain ⟨reply, base, herrors, hout⟩ := exists_reply_of_success h
    exact ⟨_, hout.isWhole herrors⟩

/-- A reply that has only a template. -/
def templateReply (text : List Char) : List Char :=
  "```html\n".toList ++ text ++ "\n```".toList

/-- A whole template is read, a torn one is not, and the sample for a heading is handed out. -/
theorem accepted_component_is_whole_heading :
    (∃ s, parse (templateReply "<h1>Login</h1>".toList) "Login".toList 10 = .ok s ∧
        (s.errors = [] ↔ s.IsComplete 10)) ∧
      (∃ t, parse (templateReply Text.halfText.toList) "Login".toList 10 = .error (.unencodable t)) ∧
      (generateCode .unconfigured (singleOrder "Login" "heading" "Sign in")).success = true ∧
      ∃ s, (generateCode .unconfigured (singleOrder "Login" "heading" "Sign in")).IsWhole s := by
  obtain ⟨hread, -, hdelivered⟩ := accepted_component_is_whole (templateReply "<h1>Login</h1>".toList)
    "Login".toList 10 .unconfigured (singleOrder "Login" "heading" "Sign in")
  obtain ⟨-, hstops, -⟩ := accepted_component_is_whole (templateReply Text.halfText.toList)
    "Login".toList 10 .unconfigured (singleOrder "Login" "heading" "Sign in")
  have hreply : Text.isTorn (templateReply "<h1>Login</h1>".toList) = false := by decide
  have hwhole := isTorn_extractFiles_iff.1 (isTorn_extractFiles hreply "Login".toList 10)
  obtain ⟨blk, hblk, htorn⟩ : ∃ blk,
      blockFor? (templateReply Text.halfText.toList) "Login".toList .html = some blk ∧
        Text.isTorn (contentOf .html blk.body) = true :=
    ⟨_, rfl, by decide⟩
  exact ⟨hread hwhole, hstops .html blk hblk htorn, success_signIn, hdelivered success_signIn⟩

/-- A template of half a surrogate pair is given to the template's file, and the reply is not taken
apart. -/
theorem half_template_is_not_read :
    (blockFor? (templateReply Text.halfText.toList) "Login".toList .html).isSome = true ∧
      ∃ t, parse (templateReply Text.halfText.toList) "Login".toList 10 = .error (.unencodable t) :=
  ⟨by decide, parse_of_isTorn (by decide)⟩

end Wireframe
