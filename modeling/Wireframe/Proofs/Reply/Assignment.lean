import Mathlib.Data.List.Find
import Mathlib.Data.List.Nodup
import Wireframe.Proofs.Reply.FileNames

/-!
# Which file gets which block

Blocks are given to files in three passes, from the surest sign to the weakest, and what one step
gives is never taken back. From a law of one step follows what holds of every assignment.

* `Assignment.IsSound` — what every step preserves: each file has a block of the reply that shows a
  sign for it, and no block is given twice.
* `Assignment.prefix_pass` — what has been given stays given.
* `IsFair` — the law of a whole assignment: no block twice, labels first, no block of another file
  unless a comment names it, no file without a block while one is left.
* `blocks_given_fairly` — it holds of every reply, with one issue for each file that is missing, if the
  end of a longer name counts as the name of a file.
-/

set_option autoImplicit false

namespace Wireframe.Reply

variable {base : List Char} {blocks : List Block} {sign : Sign} {a a' : Assignment}
  {k k' : FileKind} {b b' : Block}

/-! ## Labels and numbers -/

/-- Whether the label of a block stands for a file. -/
def Block.IsLabelled (b : Block) (k : FileKind) : Prop := b.label ∈ k.labels

/-- No label stands for two files. -/
theorem Block.IsLabelled.unique (h : b.IsLabelled k) (h' : b.IsLabelled k') : k = k' := by
  have hlabels : ∀ label ∈ k.labels, label ∈ k'.labels → k = k' := by
    cases k <;> cases k' <;> decide
  exact hlabels b.label h h'

theorem isFileLabel_of_isLabelled (h : b.IsLabelled k) : isFileLabel b.label = true :=
  List.any_eq_true.2 ⟨k, k.mem_all, List.contains_iff_mem.2 h⟩

theorem exists_isLabelled (h : isFileLabel b.label = true) : ∃ k, b.IsLabelled k := by
  obtain ⟨k, -, hk⟩ := List.any_eq_true.1 h
  exact ⟨k, List.contains_iff_mem.1 hk⟩

theorem holds_label : Sign.label.holds base k b = true ↔ b.IsLabelled k := List.contains_iff_mem

theorem holds_any : Sign.any.holds base k b = true ↔
    isFileLabel b.label = false ∨ b.IsLabelled k := by
  rw [Sign.holds, Bool.or_eq_true, Bool.not_eq_true', List.contains_iff_mem, Block.IsLabelled]

/-- A block that is labelled for another file shows no other sign than a comment. -/
theorem isMarked_of_holds (h : sign.holds base k b = true) (hlabel : b.IsLabelled k') (hne : k' ≠ k) :
    b.IsMarked (BearsName (k.fileName base)) := by
  cases sign with
  | label => exact absurd (hlabel.unique (holds_label.1 h)) hne
  | name => exact holds_name.1 h
  | any =>
    rcases holds_any.1 h with hnone | hown
    · rw [isFileLabel_of_isLabelled hlabel] at hnone
      cases hnone
    · exact absurd (hlabel.unique hown) hne

/-- Blocks of which no two have the same number. -/
def AreNumbered (blocks : List Block) : Prop := (blocks.map (·.index)).Nodup

theorem AreNumbered.eq_of_index (h : AreNumbered blocks) (hb : b ∈ blocks) (hb' : b' ∈ blocks)
    (heq : b.index = b'.index) : b = b' :=
  List.inj_on_of_nodup_map h hb hb' heq

theorem map_index_blocksFrom (index : Nat) (before : List Char) (ss : List Span) :
    (blocksFrom index before ss).map (·.index) = List.range' index ss.length := by
  induction ss generalizing index before with
  | nil => rfl
  | cons s ss ih => rw [blocksFrom, List.map_cons, ih, List.length_cons, List.range'_succ]

/-- The blocks of a reply are numbered. -/
theorem areNumbered_blocks (reply : List Char) : AreNumbered (Reply.blocks reply) := by
  unfold AreNumbered Reply.blocks
  rw [map_index_blocksFrom]
  exact List.nodup_range'

/-! ## One step -/

namespace Assignment

/-- What every step preserves: no file and no block stands there twice, and each file has a block of
the reply that shows a sign for it. -/
structure IsSound (base : List Char) (blocks : List Block) (a : Assignment) : Prop where
  files : (a.map (·.1)).Nodup
  claimed : a.claimed.Nodup
  given : ∀ k b, (k, b) ∈ a → b ∈ blocks ∧ ∃ sign : Sign, sign.holds base k b = true

theorem isSound_nil : IsSound base blocks [] := ⟨List.nodup_nil, List.nodup_nil, nofun⟩

theorem mem_of_block? (h : a.block? k = some b) : (k, b) ∈ a := by
  induction a with
  | nil => cases h
  | cons entry a ih =>
    obtain ⟨k', b'⟩ := entry
    rw [block?, List.lookup_cons] at h
    cases hk : k == k' with
    | true =>
      rw [hk] at h
      cases h
      rw [eq_of_beq hk]
      exact List.mem_cons_self
    | false =>
      rw [hk] at h
      exact List.mem_cons_of_mem _ (ih h)

/-- A file that has no block stands nowhere. -/
theorem not_mem_of_block? (h : a.block? k = none) (b : Block) : (k, b) ∉ a := by
  intro hmem
  induction a with
  | nil => cases hmem
  | cons entry a ih =>
    obtain ⟨k', b'⟩ := entry
    rw [block?, List.lookup_cons] at h
    cases hk : k == k' with
    | true =>
      rw [hk] at h
      cases h
    | false =>
      rw [hk] at h
      rcases List.mem_cons.1 hmem with heq | hmem
      · cases heq
        rw [beq_self_eq_true] at hk
        cases hk
      · exact ih h hmem

theorem IsSound.block?_eq_some (h : IsSound base blocks a) (hmem : (k, b) ∈ a) :
    a.block? k = some b := by
  cases hk : a.block? k with
  | none => exact absurd hmem (not_mem_of_block? hk b)
  | some b' =>
    have heq := List.inj_on_of_nodup_map h.files (mem_of_block? hk) hmem rfl
    rw [(Prod.mk.inj heq).2]

/-- The two ways of a step: nothing happens, or a file without a block gets the first free one that
shows the sign. -/
theorem give_cases (base : List Char) (blocks : List Block) (sign : Sign) (a : Assignment)
    (k : FileKind) :
    (a.give base blocks sign k = a ∧
        (a.block? k = none → findBlock base blocks a.claimed sign k = none)) ∨
      ∃ b, a.block? k = none ∧ findBlock base blocks a.claimed sign k = some b ∧
        a.give base blocks sign k = a ++ [(k, b)] := by
  cases hk : a.block? k with
  | some b => exact .inl ⟨give_of_block hk, nofun⟩
  | none =>
    cases hfind : findBlock base blocks a.claimed sign k with
    | some b => exact .inr ⟨b, rfl, rfl, give_of_find hk hfind⟩
    | none =>
      refine .inl ⟨?_, fun _ => rfl⟩
      unfold give
      rw [hk, hfind]

/-- The block that is found is one of the reply that is free and shows the sign. -/
theorem findBlock_eq_some {claimed : List Nat} (h : findBlock base blocks claimed sign k = some b) :
    b ∈ blocks ∧ b.index ∉ claimed ∧ sign.holds base k b = true := by
  have hb := List.find?_some h
  rw [Bool.and_eq_true, Bool.not_eq_true', ← Bool.not_eq_true, List.contains_iff_mem] at hb
  exact ⟨List.mem_of_find?_eq_some h, hb⟩

theorem IsSound.give (h : IsSound base blocks a) (sign : Sign) (k : FileKind) :
    IsSound base blocks (a.give base blocks sign k) := by
  obtain ⟨heq, -⟩ | ⟨b, hnone, hfind, heq⟩ := give_cases base blocks sign a k
  · rwa [heq]
  · obtain ⟨hb, hfree, hsign⟩ := findBlock_eq_some hfind
    rw [heq]
    refine ⟨?_, ?_, ?_⟩
    · rw [List.map_append, List.map_singleton, ← List.concat_eq_append]
      refine h.files.concat fun hmem => ?_
      obtain ⟨⟨k', b'⟩, hentry, rfl⟩ := List.mem_map.1 hmem
      exact not_mem_of_block? hnone b' hentry
    · rw [Assignment.claimed, List.map_append, List.map_singleton, ← List.concat_eq_append]
      exact h.claimed.concat hfree
    · intro k' b' hmem
      rcases List.mem_append.1 hmem with hmem | hmem
      · exact h.given k' b' hmem
      · cases List.mem_singleton.1 hmem
        exact ⟨hb, sign, hsign⟩

/-- A step takes nothing back. -/
theorem prefix_give (base : List Char) (blocks : List Block) (sign : Sign) (a : Assignment)
    (k : FileKind) : a <+: a.give base blocks sign k := by
  obtain ⟨heq, -⟩ | ⟨b, -, -, heq⟩ := give_cases base blocks sign a k
  · exact ⟨[], (List.append_nil a).trans heq.symm⟩
  · exact ⟨[(k, b)], heq.symm⟩

theorem block?_of_extends (h : a <+: a') (hk : a.block? k = some b) : a'.block? k = some b := by
  obtain ⟨more, rfl⟩ := h
  unfold block? at hk ⊢
  rw [List.lookup_append, hk, Option.some_or]

theorem block?_none_of_extends (h : a <+: a') (hk : a'.block? k = none) : a.block? k = none := by
  cases hb : a.block? k with
  | none => rfl
  | some b =>
    rw [block?_of_extends h hb] at hk
    cases hk

/-! ## Passes -/

theorem prefix_foldl_give (base : List Char) (blocks : List Block) (sign : Sign) (ks : List FileKind)
    (a : Assignment) : a <+: ks.foldl (Assignment.give base blocks sign) a := by
  induction ks generalizing a with
  | nil => exact List.prefix_rfl
  | cons k ks ih => exact (prefix_give base blocks sign a k).trans (ih _)

/-- A pass takes nothing back. -/
theorem prefix_pass (base : List Char) (blocks : List Block) (a : Assignment) (sign : Sign) :
    a <+: a.pass base blocks sign :=
  prefix_foldl_give base blocks sign FileKind.all a

/-- What the steps of a sign preserve, a pass preserves. -/
theorem pass_preserves {P : Assignment → Prop}
    (hstep : ∀ a k, P a → P (a.give base blocks sign k)) (h : P a) :
    P (a.pass base blocks sign) := by
  unfold pass
  induction FileKind.all generalizing a with
  | nil => exact h
  | cons k ks ih => exact ih (hstep a k h)

theorem IsSound.pass (h : IsSound base blocks a) (sign : Sign) :
    IsSound base blocks (a.pass base blocks sign) :=
  pass_preserves (fun _ k ha => ha.give sign k) h

theorem exists_turn_foldl {P : Assignment → Prop}
    (hstep : ∀ a k, P a → P (a.give base blocks sign k)) {ks : List FileKind} (hk : k ∈ ks) (h : P a) :
    ∃ a', P a' ∧
      a'.give base blocks sign k <+: ks.foldl (Assignment.give base blocks sign) a := by
  induction ks generalizing a with
  | nil => cases hk
  | cons k' ks ih =>
    rcases List.mem_cons.1 hk with rfl | hk
    · exact ⟨a, h, prefix_foldl_give base blocks sign ks _⟩
    · exact ih hk (hstep a k' h)

/-- In a pass every file has its turn, and then all that the steps preserve still holds. -/
theorem exists_turn {P : Assignment → Prop}
    (hstep : ∀ a k, P a → P (a.give base blocks sign k)) (h : P a) (k : FileKind) :
    ∃ a', P a' ∧ a'.give base blocks sign k <+: a.pass base blocks sign :=
  exists_turn_foldl hstep k.mem_all h

end Assignment

/-- The passes of an assignment, from the surest sign to the weakest. -/
theorem assign_eq (base : List Char) (blocks : List Block) : assign base blocks =
    ((Assignment.pass base blocks [] .label).pass base blocks .name).pass base blocks .any := rfl

theorem isSound_assign (base : List Char) (blocks : List Block) :
    Assignment.IsSound base blocks (assign base blocks) := by
  rw [assign_eq]
  exact ((Assignment.isSound_nil.pass .label).pass .name).pass .any

theorem prefix_assign (base : List Char) (blocks : List Block) :
    Assignment.pass base blocks [] .label <+: assign base blocks := by
  rw [assign_eq]
  exact (Assignment.prefix_pass base blocks _ .name).trans (Assignment.prefix_pass base blocks _ .any)

/-! ## Labels come first -/

def firstLabelled (blocks : List Block) (k : FileKind) : Option Block :=
  blocks.find? fun b => k.labels.contains b.label

theorem firstLabelled_eq_some (h : firstLabelled blocks k = some b) :
    b ∈ blocks ∧ b.IsLabelled k := by
  have hlabel : k.labels.contains b.label = true :=
    List.find?_some (p := fun b : Block => k.labels.contains b.label) h
  exact ⟨List.mem_of_find?_eq_some h, List.contains_iff_mem.1 hlabel⟩

namespace Assignment

/-- While blocks are given by their labels, every file has the first one of its own. -/
def IsByLabel (blocks : List Block) (a : Assignment) : Prop :=
  ∀ k b, (k, b) ∈ a → firstLabelled blocks k = some b

/-- As long as blocks are given by their labels, none that is labelled for a waiting file is taken. -/
theorem IsByLabel.findBlock_eq (h : IsByLabel blocks a) (hnum : AreNumbered blocks)
    (hk : a.block? k = none) :
    findBlock base blocks a.claimed .label k = firstLabelled blocks k := by
  refine List.find?_congr fun b hb => ?_
  cases hlabel : k.labels.contains b.label with
  | false => exact Bool.and_eq_false_iff.2 (.inr hlabel)
  | true =>
    have hfree : b.index ∉ a.claimed := by
      intro hclaimed
      obtain ⟨⟨k', b'⟩, hentry, hindex⟩ := List.mem_map.1 hclaimed
      obtain ⟨hb', hlabel'⟩ := firstLabelled_eq_some (h k' b' hentry)
      obtain rfl : b' = b := hnum.eq_of_index hb' hb hindex
      rw [hlabel'.unique (List.contains_iff_mem.1 hlabel)] at hentry
      exact not_mem_of_block? hk b' hentry
    rw [Bool.and_eq_true, Bool.not_eq_true', ← Bool.not_eq_true, List.contains_iff_mem]
    exact ⟨hfree, hlabel⟩

theorem IsByLabel.give (h : IsByLabel blocks a) (hnum : AreNumbered blocks) (k : FileKind) :
    IsByLabel blocks (a.give base blocks .label k) := by
  obtain ⟨heq, -⟩ | ⟨b, hnone, hfind, heq⟩ := give_cases base blocks .label a k
  · rwa [heq]
  · rw [heq]
    intro k' b' hmem
    rcases List.mem_append.1 hmem with hmem | hmem
    · exact h k' b' hmem
    · cases List.mem_singleton.1 hmem
      exact (h.findBlock_eq hnum hnone).symm.trans hfind

/-- After its turn in the pass by labels, a file has the first block that is labelled for it. -/
theorem IsByLabel.block?_give (h : IsByLabel blocks a) (hnum : AreNumbered blocks)
    (hb : firstLabelled blocks k = some b) : (a.give base blocks .label k).block? k = some b := by
  cases hk : a.block? k with
  | some b' => rw [give_of_block hk, hk, ← h k b' (mem_of_block? hk), hb]
  | none =>
    rw [give_of_find hk ((h.findBlock_eq hnum hk).trans hb), block?, List.lookup_append]
    unfold block? at hk
    rw [hk, Option.none_or, List.lookup_cons_self]

end Assignment

theorem assign_of_firstLabelled (hnum : AreNumbered blocks) (h : firstLabelled blocks k = some b) :
    (assign base blocks).block? k = some b := by
  have hnil : Assignment.IsByLabel blocks [] := nofun
  have hstep (a : Assignment) (k : FileKind) (ha : a.IsByLabel blocks) :
      (a.give base blocks .label k).IsByLabel blocks := ha.give hnum k
  obtain ⟨a, ha, hturn⟩ := Assignment.exists_turn hstep hnil k
  exact Assignment.block?_of_extends (hturn.trans (prefix_assign base blocks)) (ha.block?_give hnum h)

/-! ## No file goes without -/

/-- A file is left without a block only when every block is given to another file, or labelled for
one. -/
theorem given_or_labelled_of_missing (hnum : AreNumbered blocks)
    (h : (assign base blocks).block? k = none) (hb : b ∈ blocks) :
    (∃ k', k' ≠ k ∧ (assign base blocks).block? k' = some b) ∨ ∃ k', k' ≠ k ∧ b.IsLabelled k' := by
  have hstep (a : Assignment) (k : FileKind) (ha : a.IsSound base blocks) :
      (a.give base blocks .any k).IsSound base blocks := ha.give .any k
  obtain ⟨a, ha, hturn⟩ := Assignment.exists_turn hstep
    ((Assignment.isSound_nil.pass .label).pass .name) k
  have hwithin : a <+: assign base blocks := (Assignment.prefix_give base blocks .any a k).trans hturn
  have hnothing : findBlock base blocks a.claimed .any k = none := by
    obtain ⟨-, hfind⟩ | ⟨b', -, -, heq⟩ := Assignment.give_cases base blocks .any a k
    · exact hfind (Assignment.block?_none_of_extends hwithin h)
    · have hgiven := Assignment.block?_none_of_extends hturn h
      rw [heq] at hgiven
      exact absurd List.mem_concat_self (Assignment.not_mem_of_block? hgiven b')
  have hrefused := List.find?_eq_none.1 hnothing b hb
  rw [Bool.and_eq_true, not_and, Bool.not_eq_true', ← Bool.not_eq_true, List.contains_iff_mem,
    holds_any] at hrefused
  by_cases hclaimed : b.index ∈ a.claimed
  · obtain ⟨⟨k', b'⟩, hentry, hindex⟩ := List.mem_map.1 hclaimed
    obtain rfl : b' = b := hnum.eq_of_index (ha.given k' b' hentry).1 hb hindex
    have hgiven : (assign base blocks).block? k' = some b' :=
      (isSound_assign base blocks).block?_eq_some (hwithin.subset hentry)
    refine .inl ⟨k', ?_, hgiven⟩
    rintro rfl
    rw [h] at hgiven
    cases hgiven
  · obtain ⟨hfile, hown⟩ := not_or.1 (hrefused hclaimed)
    obtain ⟨k', hlabel⟩ := exists_isLabelled (Bool.not_eq_false _ ▸ hfile)
    refine .inr ⟨k', ?_, hlabel⟩
    rintro rfl
    exact hown hlabel

/-! ## The law -/

/-- The law of an assignment of blocks to files, for a notion of what it is that a line names a file. -/
structure IsFair (Names : FileKind → List Char → Prop) (blocks : List Block)
    (block? : FileKind → Option Block) : Prop where
  /-- Every block that is given is one of the reply. -/
  mem : ∀ k b, block? k = some b → b ∈ blocks
  /-- No block serves two files. -/
  injective : ∀ k k' b, block? k = some b → block? k' = some b → k = k'
  /-- A file for which some block is labelled gets the first such block. -/
  labelFirst : ∀ k before b after, blocks = before ++ b :: after → b.IsLabelled k →
    (∀ b' ∈ before, ¬b'.IsLabelled k) → block? k = some b
  /-- A block that is labelled for another file is only taken when a comment names this file. -/
  crossNamed : ∀ k k' b, block? k = some b → b.IsLabelled k' → k' ≠ k → b.IsMarked (Names k)
  /-- A file goes without a block only when every block is given to another file, or labelled for
  one. -/
  maximal : ∀ k, block? k = none → ∀ b ∈ blocks,
    (∃ k', k' ≠ k ∧ block? k' = some b) ∨ ∃ k', k' ≠ k ∧ b.IsLabelled k'

theorem isFair_assign (base : List Char) (hnum : AreNumbered blocks) :
    IsFair (fun k => BearsName (k.fileName base)) blocks (assign base blocks).block? where
  mem k b h := ((isSound_assign base blocks).given k b (Assignment.mem_of_block? h)).1
  injective k k' b h h' := by
    have hentry := List.inj_on_of_nodup_map (isSound_assign base blocks).claimed
      (Assignment.mem_of_block? h) (Assignment.mem_of_block? h') rfl
    exact (Prod.mk.inj hentry).1
  labelFirst k before b after hblocks hlabel hbefore := by
    refine assign_of_firstLabelled hnum (List.find?_eq_some_iff_append.2 ?_)
    refine ⟨List.contains_iff_mem.2 hlabel, before, after, hblocks, fun b' hb' => ?_⟩
    rw [Bool.not_eq_true', ← Bool.not_eq_true, List.contains_iff_mem]
    exact hbefore b' hb'
  crossNamed k k' b h hlabel hne := by
    obtain ⟨-, sign, hsign⟩ := (isSound_assign base blocks).given k b (Assignment.mem_of_block? h)
    exact isMarked_of_holds hsign hlabel hne
  maximal k h b hb := given_or_labelled_of_missing hnum h hb

theorem mem_blocks_of_blockFor? {reply : List Char} (h : blockFor? reply base k = some b) :
    b ∈ Reply.blocks reply :=
  (isFair_assign base (areNumbered_blocks reply)).mem k b h

/-- The issues about missing files, one for each. -/
theorem extractionIssues_eq (reply base : List Char) (minLength : Int) :
    (extractFiles reply base minLength).issues.filter (·.topic == .extraction) =
      (FileKind.all.filter fun k => ((extractFiles reply base minLength).file? k).isNone).map
        missingFile := by
  have hmissing (ks : List FileKind) :
      (ks.map missingFile).filter (·.topic == .extraction) = ks.map missingFile := by
    refine List.filter_eq_self.2 fun i hi => ?_
    obtain ⟨k, -, rfl⟩ := List.mem_map.1 hi
    rfl
  have hcontents (k : FileKind) : ∀ i ∈ ((blockFor? reply base k).map fun b =>
      issuesIn minLength k (contentOf k b.body)).getD [], ¬(i.topic == .extraction) = true := by
    intro i hi
    cases hb : blockFor? reply base k with
    | none =>
      rw [hb] at hi
      cases hi
    | some b =>
      rw [hb] at hi
      rw [topic_of_mem_issuesIn hi]
      decide
  have hnone : (FileKind.all.flatMap fun k => ((blockFor? reply base k).map fun b =>
      issuesIn minLength k (contentOf k b.body)).getD []).filter (·.topic == .extraction) = [] := by
    refine List.filter_eq_nil_iff.2 fun i hi => ?_
    obtain ⟨k, -, hk⟩ := List.mem_flatMap.1 hi
    exact hcontents k i hk
  rw [issues_extractFiles, replyIssues, List.filter_append, hmissing, hnone, List.append_nil]
  simp only [file?_extractFiles, Option.isNone_map]

/-- A law for one notion of names is a law for another one exactly when this names the files that blocks
of other files are given to. -/
theorem IsFair.iff_crossNamed {Names Others : FileKind → List Char → Prop}
    {block? : FileKind → Option Block} (h : IsFair Names blocks block?) :
    IsFair Others blocks block? ↔
      ∀ k k' b, block? k = some b → b.IsLabelled k' → k' ≠ k → b.IsMarked (Others k) :=
  ⟨(·.crossNamed), fun hothers => ⟨h.mem, h.injective, h.labelFirst, hothers, h.maximal⟩⟩

/-- **Blocks are given to files fairly, if the end of a longer name counts as the name of a file**, whatever
the reply and the name of the screen: the files that are read are those of a fair assignment, and each file
that gets no block is reported once. For any notion of the characters that names are made of, word
characters among them, the assignment is fair for names that stand in a comment as a whole exactly when
each block that is given to a file in spite of its label is marked with the whole name. The files are there
unless the content of a block that is given is torn. -/
theorem blocks_given_fairly {isPart : Char → Bool} (hpart : ∀ c, Text.isWordChar c = true → isPart c = true)
    (reply base : List Char) (minLength : Int) :
    let given := blockFor? reply base
    IsFair (fun k => BearsName (k.fileName base)) (Reply.blocks reply) given ∧
      (∀ (k : FileKind) line, BearsWhole isPart (k.fileName base) line →
        BearsName (k.fileName base) line) ∧
      (IsFair (fun k => BearsWhole isPart (k.fileName base)) (Reply.blocks reply) given ↔
        ∀ k k' b, given k = some b → b.IsLabelled k' → k' ≠ k →
          b.IsMarked (BearsWhole isPart (k.fileName base))) ∧
      ((∃ s, parse reply base minLength = .ok s) ↔
        ∀ k b, given k = some b → Text.isTorn (contentOf k b.body) = false) ∧
      ∀ s, parse reply base minLength = .ok s →
        (∀ k, s.file? k = (given k).map fun b => fileOf base k b.body) ∧
        s.issues.filter (·.topic == .extraction) =
          (FileKind.all.filter fun k => (given k).isNone).map missingFile ∧
        s.errors = s.issues.map (·.message) := by
  have hfair : IsFair (fun k => BearsName (k.fileName base)) (Reply.blocks reply)
      (blockFor? reply base) := isFair_assign base (areNumbered_blocks reply)
  refine ⟨hfair, fun k line h => h.bearsName hpart, hfair.iff_crossNamed, ?_, fun s hs => ?_⟩
  · simp only [parse_eq_ok_iff, exists_and_left, exists_eq, and_true]
    exact isTorn_extractFiles_iff
  · obtain ⟨-, rfl⟩ := parse_eq_ok_iff.1 hs
    refine ⟨file?_extractFiles reply base minLength, ?_, by simp only [extractFiles]⟩
    rw [extractionIssues_eq]
    simp only [file?_extractFiles, Option.isNone_map]

/-- A reply with two templates, of which a comment names the second one as a file of styles. -/
def crossReply (comment : String) : List Char :=
  "```html\n<p>a</p>\n```\n".toList ++ comment.toList ++ "\n```html\n.login \x7b\x7d\n```".toList

def crossBlock (comment : String) : Block where
  index := 1
  label := "html".toList
  body := ".login \x7b\x7d\n".toList
  precedingLine := comment.toList
  start := 22 + comment.length

theorem blocks_given_fairly_login :
    let base := "Login".toList
    let reply := crossReply "/* login.component.scss */"
    (∀ c, Text.isWordChar c = true → isFileNameChar c = true) ∧
      blockFor? reply base .scss = some (crossBlock "/* login.component.scss */") ∧
      IsFair (fun k => BearsWhole isFileNameChar (k.fileName base)) (Reply.blocks reply)
        (blockFor? reply base) := by
  intro base reply
  have hpart (c : Char) (h : Text.isWordChar c = true) : isFileNameChar c = true := by
    simp [isFileNameChar, h]
  obtain ⟨hclass, htemplate, hstyles⟩ : blockFor? reply base .typescript = none ∧
      (blockFor? reply base .html).all (·.label == "html".toList) = true ∧
      blockFor? reply base .scss = some (crossBlock "/* login.component.scss */") := by
    decide
  obtain ⟨-, -, hwhole, -⟩ := blocks_given_fairly hpart reply base 10
  refine ⟨hpart, hstyles, hwhole.2 fun k k' b hb hlabel hne => ?_⟩
  cases k with
  | typescript =>
    rw [hclass] at hb
    cases hb
  | html =>
    rw [hb, Option.all_some, beq_iff_eq] at htemplate
    have hown : b.IsLabelled .html := by
      rw [Block.IsLabelled, htemplate]
      decide
    exact absurd (hlabel.unique hown) hne
  | scss =>
    cases hstyles.symm.trans hb
    decide

/-- **The end of a longer name is enough.** A block that is labelled for a template is given to the styles
of a screen, though no comment names them: the one in front of it names those of another screen. -/
theorem longer_name_crosses :
    let base := "Login".toList
    let reply := crossReply "/* adminlogin.component.scss */"
    blockFor? reply base .scss = some (crossBlock "/* adminlogin.component.scss */") ∧
      (crossBlock "/* adminlogin.component.scss */").IsLabelled .html ∧
      ¬(crossBlock "/* adminlogin.component.scss */").IsMarked
        (BearsWhole Text.isWordChar (FileKind.scss.fileName base)) ∧
      ¬IsFair (fun k => BearsWhole Text.isWordChar (k.fileName base)) (Reply.blocks reply)
        (blockFor? reply base) := by
  intro base reply
  have hgiven : blockFor? reply base .scss = some (crossBlock "/* adminlogin.component.scss */") := by
    decide
  have hlabel : (crossBlock "/* adminlogin.component.scss */").IsLabelled .html := by
    unfold Block.IsLabelled
    decide
  have hmarked : ¬(crossBlock "/* adminlogin.component.scss */").IsMarked
      (BearsWhole Text.isWordChar (FileKind.scss.fileName base)) := by
    decide
  exact ⟨hgiven, hlabel, hmarked, fun h =>
    hmarked (h.crossNamed .scss .html _ hgiven hlabel (by decide))⟩

end Wireframe.Reply
