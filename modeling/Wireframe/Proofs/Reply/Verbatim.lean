import Wireframe.Proofs.Reply.Assignment
import Wireframe.Proofs.Reply.Blocks
import Wireframe.Proofs.Text.LineFeeds

/-!
# Code as it stands in a reply

The content of a file is cut out of the reply: white space at the ends of the block and a first line that
names a file are left out. On the way the block is cut into lines and joined again, and that replaces
every line boundary that is no line feed, inside the code too.

* `codeIn` — the part of a block's body that is code.
* `withoutNameComment_eq` — the content of a block is that part with line feeds for boundaries.
* `content_is_verbatim_iff` — it is that part itself exactly when no other boundary stands in it.
-/

set_option autoImplicit false

namespace Wireframe.Reply

open Wireframe.Text

variable {line reply base : List Char} {b : Block} {k : FileKind}

/-! ## The code in a block -/

/-- Whether a line is a comment with the end of some file's name. -/
def NamesSomeFile (line : List Char) : Prop :=
  IsComment line ∧ ∃ k : FileKind, BearsName k.suffix line

theorem namesAnyFile_iff : namesAnyFile line = true ↔ NamesSomeFile line := by
  unfold namesAnyFile NamesSomeFile
  rw [Bool.and_eq_true, isComment_iff, List.any_eq_true]
  apply and_congr_right
  intro _
  constructor
  · rintro ⟨k, -, hk⟩
    exact ⟨k, occursAsName_iff.1 hk⟩
  · rintro ⟨k, hk⟩
    exact ⟨k, k.mem_all, occursAsName_iff.2 hk⟩

instance (line : List Char) : Decidable (NamesSomeFile line) := decidable_of_iff _ namesAnyFile_iff

/-- The code in the body of a block: the body, or what stands in it behind a first line that is a comment
with a file's name, without the white space at the ends. -/
def codeIn (body : List Char) : List Char :=
  if NamesSomeFile (topLine (trim body)) then trim (belowTopLine (trim body)) else trim body

/-- The content of a block is the code in it with a line feed for every boundary. -/
theorem withoutNameComment_eq (body : List Char) :
    withoutNameComment body = withLineFeeds (codeIn body) := by
  unfold withoutNameComment codeIn
  by_cases hnil : trim body = []
  · have hbelow : trim (belowTopLine []) = [] := rfl
    rw [hnil, lines_nil, hbelow, ite_self]
    rfl
  · obtain ⟨rest, hlines, hrest⟩ := exists_lines_eq_cons hnil
    rw [hlines]
    dsimp only
    by_cases hnames : NamesSomeFile (topLine (trim body))
    · rw [if_pos hnames, if_pos (namesAnyFile_iff.2 hnames), trim_joinLines_lines, hrest]
    · rw [if_neg hnames, if_neg (mt namesAnyFile_iff.1 hnames), ← hlines, trim_joinLines_lines,
        trim_trim]

/-- The code in a block stands in its body as it is. -/
theorem codeIn_isInfix (body : List Char) : codeIn body <:+: body := by
  unfold codeIn
  split
  · have hbelow : belowTopLine (trim body) <:+ trim body := List.dropWhile_suffix _
    exact (trim_isInfix _).trans (hbelow.isInfix.trans (trim_isInfix body))
  · exact trim_isInfix body

/-! ## Files of a reply -/

/-- A template or a style sheet has the content of its block. -/
theorem content_fileOf (hk : k ≠ .typescript) (base body : List Char) :
    (fileOf base k body).content.toList = withoutNameComment body := by
  cases k with
  | typescript => exact absurd rfl hk
  | html => exact String.toList_ofList
  | scss => exact String.toList_ofList

/-- **Code stays as it is unless a line of it ends in something else than a line feed.** The content of
a block is the code in it, which stands in the block's body without a gap, with a line feed for every
line boundary; so it is the code itself exactly when that knows no boundary but the line feed. For any
reply, the template and the styles that are read from it are such contents of blocks of the reply, and
they stand in the reply under that condition. -/
theorem content_is_verbatim_iff (reply base : List Char) (minLength : Int) :
    (∀ body, codeIn body <:+: body ∧ withoutNameComment body = withLineFeeds (codeIn body) ∧
      (withoutNameComment body = codeIn body ↔ HasOnlyLineFeeds (codeIn body))) ∧
    ∀ k f, k ≠ .typescript → (extractFiles reply base minLength).file? k = some f →
      ∃ b, blockFor? reply base k = some b ∧ b ∈ blocks reply ∧ codeIn b.body <:+: reply ∧
        f.content.toList = withLineFeeds (codeIn b.body) ∧
        (f.content.toList = codeIn b.body ↔ HasOnlyLineFeeds (codeIn b.body)) ∧
        (HasOnlyLineFeeds (codeIn b.body) → f.content.toList <:+: reply) := by
  have hverbatim (body : List Char) :
      withoutNameComment body = codeIn body ↔ HasOnlyLineFeeds (codeIn body) := by
    rw [withoutNameComment_eq, withLineFeeds_eq_self_iff]
  refine ⟨?_, ?_⟩
  · intro body
    exact ⟨codeIn_isInfix body, withoutNameComment_eq body, hverbatim body⟩
  · intro k f hk hfile
    rw [file?_extractFiles] at hfile
    obtain ⟨b, hb, rfl⟩ := Option.map_eq_some_iff.1 hfile
    have hmem := mem_blocks_of_blockFor? hb
    have hinfix : codeIn b.body <:+: reply :=
      (codeIn_isInfix b.body).trans (body_infix_of_mem_blocks hmem)
    rw [content_fileOf hk]
    refine ⟨b, hb, hmem, hinfix, withoutNameComment_eq b.body, hverbatim b.body, ?_⟩
    intro hfeeds
    rwa [(hverbatim b.body).2 hfeeds]

/-- A reply with a template below a comment that names its file. -/
def namedReply : List Char :=
  "```html\n<!-- login.component.html -->\n<h1>Login</h1>\n```".toList

/-- The template in that reply. -/
def namedBlock : Block where
  index := 0
  label := "html".toList
  body := "<!-- login.component.html -->\n<h1>Login</h1>\n".toList
  precedingLine := []
  start := 0

/-- The template below the comment is taken as it is. -/
theorem content_is_verbatim_named :
    let file := fileOf "Login".toList .html namedBlock.body
    (extractFiles namedReply "Login".toList 0).file? .html = some file ∧
      HasOnlyLineFeeds (codeIn namedBlock.body) ∧ file.content.toList <:+: namedReply := by
  obtain ⟨hblock, hfeeds⟩ : blockFor? namedReply "Login".toList .html = some namedBlock ∧
      HasOnlyLineFeeds (codeIn namedBlock.body) := by
    decide
  have hfile : (extractFiles namedReply "Login".toList 0).file? .html =
      some (fileOf "Login".toList .html namedBlock.body) := by
    rw [file?_extractFiles, hblock]
    rfl
  refine ⟨hfile, hfeeds, ?_⟩
  obtain ⟨b, hb, -, -, -, -, hinfix⟩ :=
    (content_is_verbatim_iff namedReply "Login".toList 0).2 .html _ (by simp) hfile
  obtain rfl : namedBlock = b := Option.some.inj (hblock.symm.trans hb)
  exact hinfix hfeeds

/-- A reply whose template has a line separator in a paragraph. -/
def separatedReply : List Char := "```html\n<p>Ada\u2028Lovelace</p>\n```".toList

/-- The block of that template. -/
def separatedBlock : Block where
  index := 0
  label := "html".toList
  body := "<p>Ada\u2028Lovelace</p>\n".toList
  precedingLine := []
  start := 0

/-- **A line separator in the code is replaced.** The body of the block names no file, and its content is
not the trimmed body; the template of the reply does not stand in the reply. -/
theorem line_separator_is_replaced :
    let body := separatedBlock.body
    let file := fileOf "Login".toList .html body
    ¬NamesSomeFile (topLine (trim body)) ∧ withoutNameComment body ≠ trim body ∧
      (extractFiles separatedReply "Login".toList 0).file? .html = some file ∧
      ¬file.content.toList <:+: separatedReply := by
  obtain ⟨hblock, hunnamed, hkept, hinfix⟩ :
      blockFor? separatedReply "Login".toList .html = some separatedBlock ∧
        ¬NamesSomeFile (topLine (trim separatedBlock.body)) ∧
        withoutNameComment separatedBlock.body ≠ trim separatedBlock.body ∧
        ¬withoutNameComment separatedBlock.body <:+: separatedReply := by
    decide
  refine ⟨hunnamed, hkept, ?_, ?_⟩
  · rw [file?_extractFiles, hblock]
    rfl
  · rwa [content_fileOf (by simp)]

end Wireframe.Reply
