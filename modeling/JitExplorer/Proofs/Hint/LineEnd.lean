/-
**Which hints stand at the end of their line.**

A hint is to stand behind the last character of its line, and an editor counts lines and places in
its own way.  The server takes what stands between two newlines for a line, and counts characters.
So a hint stands at the end of its line exactly if the piece of the server has as many characters as
the line of the editor has places.

Where no carriage return stands alone, both speak of the same lines.  Then a return in front of the
newline puts the hint behind the end of its line, and a wide character puts it in front, so that the
hint is right only if one makes up for the other.  A text whose hints are right at every moment of
being typed has no return and no wide character at all.

Main definitions:

* `Session.Serves` — an open source with some text, for which blocks are kept;
* `Session.serverLine`, `Session.IsMeasured` — a line as the server sees it, and lines that it
  measures as an editor does.

Main results:

* `Session.hasShortCount_of_read` — blocks that were read can be counted;
* `Session.hints_of_serves` — the hints of a range of a source;
* `Session.isMeasured_iff_of_pairsReturns` — what is measured rightly if no return stands alone;
* `Session.forall_start_isMeasured_iff` — the texts that are measured rightly from their start;
* `Session.hints_atLineEnd_iff` — **the hints that stand at the end of their line.**
-/

import JitExplorer.Proofs.Framing.RoundTrip
import JitExplorer.Proofs.Hint.Grouping
import JitExplorer.Proofs.Session.View
import JitExplorer.Proofs.Text.EditorLines
import JitExplorer.Session.DecodingEditor

set_option autoImplicit false

namespace JitExplorer.Session

open Hint (lengthAt ofGroup rangeLines)
open Text (editorLines editorLength isWide pieces PairsReturns)

/-! ### Lines as the server measures them -/

/-- A line as the server sees it: what stands between two newlines.  A line behind the text is
empty. -/
def serverLine (s : List Char) (line : Nat) : List Char :=
  (pieces s)[line]?.getD []

/-- **The server measures a line as an editor does,** if the text has that line. -/
def IsMeasured (s : List Char) (line : Nat) : Prop :=
  ∀ l, (editorLines s)[line]? = some l → (serverLine s line).length = editorLength l

theorem isMeasured_iff {s l : List Char} {line : Nat} (hl : (editorLines s)[line]? = some l) :
    IsMeasured s line ↔ (serverLine s line).length = editorLength l := by
  rw [IsMeasured, hl]
  exact ⟨fun h => h l rfl, fun h m hm => Option.some.inj hm ▸ h⟩

theorem lengthAt_sourceLines (text : String) (line : Nat) :
    lengthAt (sourceLines text) line = (serverLine text.toList line).length := by
  unfold lengthAt sourceLines serverLine
  rw [Int.toNat_natCast]
  split
  · rename_i hline
    rw [List.length_map] at hline
    rw [List.getElem?_eq_getElem hline]
    simp
  · rename_i hline
    rw [List.length_map, Nat.not_lt] at hline
    rw [List.getElem?_eq_none hline]
    rfl

/-- **If no return stands alone,** a line is measured rightly if its wide characters are as many as
the returns in front of its newline. -/
theorem isMeasured_iff_of_pairsReturns {s l : List Char} {line : Nat} (hpairs : PairsReturns s)
    (hl : (editorLines s)[line]? = some l) :
    IsMeasured s line ↔ l.countP isWide = (serverLine s line).count '\r' := by
  have hlines := hl
  rw [Text.editorLines_of_pairsReturns hpairs, List.getElem?_map] at hlines
  obtain ⟨piece, hpiece, hfilter⟩ := Option.map_eq_some_iff.1 hlines
  have hserver : serverLine s line = piece := by
    rw [serverLine, hpiece]
    rfl
  -- The piece is the line, and the returns that were taken out of it.
  have hlength : piece.length = l.length + piece.count '\r' := by
    have hsplit := List.length_eq_countP_add_countP (· == '\r') (l := piece)
    have hothers : piece.countP (fun c => ¬ (c == '\r') = true) = piece.countP (· != '\r') :=
      List.countP_congr fun c _ => by simp
    rw [← hfilter, ← List.countP_eq_length_filter, List.count_eq_countP, Nat.add_comm, ← hothers]
    exact hsplit
  rw [isMeasured_iff hl, Text.editorLength_eq, hserver, hlength]
  omega

section LastLine

variable {ls : List (List Char)} {last : List Char} {c : Char}

/-- The line behind some lines that were written out is the first piece of what follows them. -/
theorem getElem?_pieces_unpieces (hls : ∀ l ∈ ls, '\n' ∉ l) {s m : List Char}
    {ms : List (List Char)} (hs : pieces s = m :: ms) :
    (pieces (Text.unpieces ls ++ s))[ls.length]? = some m := by
  rw [Text.pieces_unpieces_append ls s hls, hs]
  simp

/-- The server sees a last line with the character that is added to it. -/
theorem serverLine_concat (hls : ∀ l ∈ ls, '\n' ∉ l) (hlast : '\n' ∉ last) (hc : c ≠ '\n') :
    serverLine (Text.unpieces ls ++ (last ++ [c])) ls.length = last ++ [c] := by
  have hpiece : '\n' ∉ last ++ [c] := by
    simp [hlast, Ne.symm hc]
  rw [serverLine, getElem?_pieces_unpieces hls (Text.pieces_of_notMem hpiece)]
  rfl

/-- A return ends a line for the editor, and belongs to it for the server. -/
theorem not_isMeasured_return (hls : ∀ l ∈ ls, '\n' ∉ l) (hlast : '\n' ∉ last)
    (hreturn : '\r' ∉ Text.unpieces ls ++ last) (hnarrow : last.countP isWide = 0) :
    ¬ IsMeasured (Text.unpieces ls ++ (last ++ ['\r'])) ls.length := by
  intro hmeasured
  have hunified : Text.unifyNewlines (Text.unpieces ls ++ (last ++ ['\r'])) =
      Text.unpieces ls ++ (last ++ '\n' :: []) := by
    rw [← List.append_assoc, Text.unifyNewlines_append_of_notMem hreturn, List.append_assoc]
    rfl
  have hline : (editorLines (Text.unpieces ls ++ (last ++ ['\r'])))[ls.length]? = some last := by
    rw [editorLines, hunified]
    exact getElem?_pieces_unpieces hls (Text.pieces_append_newline last [] hlast)
  have hlength := hmeasured last hline
  rw [serverLine_concat hls hlast (by decide), Text.editorLength_eq, hnarrow,
    List.length_append] at hlength
  simp at hlength

/-- A wide character has two places for the editor, and one for the server. -/
theorem not_isMeasured_wide (hls : ∀ l ∈ ls, '\n' ∉ l) (hlast : '\n' ∉ last)
    (hreturn : '\r' ∉ Text.unpieces ls ++ last) (hwide : isWide c = true) :
    ¬ IsMeasured (Text.unpieces ls ++ (last ++ [c])) ls.length := by
  intro hmeasured
  have hc : c ≠ '\n' ∧ c ≠ '\r' := by
    constructor <;> rintro rfl <;> exact absurd hwide (by decide)
  have hclean : '\r' ∉ Text.unpieces ls ++ (last ++ [c]) := by
    rw [← List.append_assoc, List.mem_append, not_or]
    exact ⟨hreturn, by simpa using Ne.symm hc.2⟩
  have hline : (editorLines (Text.unpieces ls ++ (last ++ [c])))[ls.length]? =
      some (last ++ [c]) := by
    rw [Text.editorLines_of_notMem hclean]
    exact getElem?_pieces_unpieces hls (Text.pieces_of_notMem (by simp [hlast, Ne.symm hc.1]))
  have hlength := hmeasured _ hline
  rw [serverLine_concat hls hlast hc.1, Text.editorLength_eq] at hlength
  simp [hwide] at hlength

/-- A text that ends with a return or with a wide character, and has no other one, is measured
wrongly in the line that this character stands in. -/
theorem exists_not_isMeasured {front : List Char}
    (hfront : ∀ d ∈ front, d ≠ '\r' ∧ isWide d = false) (hc : ¬ (c ≠ '\r' ∧ isWide c = false)) :
    ∃ line, ¬ IsMeasured (front ++ [c]) line := by
  obtain ⟨ls, last, hpieces, rfl⟩ := Text.exists_unpieces_append front
  have hpiece : ∀ l ∈ ls ++ [last], '\n' ∉ l := fun l hl =>
    Text.newline_notMem_of_mem_pieces (hpieces ▸ hl)
  obtain ⟨hls, hlast⟩ := List.forall_mem_append.1 hpiece
  have hlast : '\n' ∉ last := hlast last List.mem_cons_self
  have hreturn : '\r' ∉ Text.unpieces ls ++ last := fun hmem => (hfront _ hmem).1 rfl
  refine ⟨ls.length, ?_⟩
  rw [List.append_assoc]
  by_cases hc' : c = '\r'
  · subst hc'
    refine not_isMeasured_return hls hlast hreturn (List.countP_eq_zero.2 fun d hd => ?_)
    rw [(hfront d (List.mem_append_right _ hd)).2]
    exact Bool.false_ne_true
  · exact not_isMeasured_wide hls hlast hreturn (by simpa [hc'] using hc)

end LastLine

/-- **The texts that are measured rightly from their start:** every beginning of the text is
measured rightly exactly if the text has no return and no wide character. -/
theorem forall_start_isMeasured_iff (s : List Char) :
    (∀ start, start <+: s → ∀ line, IsMeasured start line) ↔
      ∀ c ∈ s, c ≠ '\r' ∧ isWide c = false := by
  constructor
  · -- The text grows at its end, so the induction takes the last character off.
    induction s using List.reverseRecOn with
    | nil => exact fun _ c hc => absurd hc List.not_mem_nil
    | append_singleton s c ih =>
        intro hmeasured
        have hs := ih fun start hstart => hmeasured start (hstart.trans (List.prefix_append s [c]))
        have hc : c ≠ '\r' ∧ isWide c = false := by
          by_contra hbad
          obtain ⟨line, hline⟩ := exists_not_isMeasured hs hbad
          exact hline (hmeasured _ (List.prefix_refl _) line)
        exact List.forall_mem_append.2 ⟨hs, List.forall_mem_singleton.2 hc⟩
  · intro hclean start hstart line l hl
    have hstart : ∀ c ∈ start, c ≠ '\r' ∧ isWide c = false :=
      fun c hc => hclean c (hstart.subset hc)
    have hreturn : '\r' ∉ start := fun hmem => (hstart _ hmem).1 rfl
    rw [Text.editorLines_of_notMem hreturn] at hl
    have hnarrow : l.countP isWide = 0 := by
      refine List.countP_eq_zero.2 fun c hc => ?_
      have hmem := Text.mem_of_mem_pieces (List.mem_of_getElem? hl) c hc
      rw [(hstart c hmem).2]
      exact Bool.false_ne_true
    rw [serverLine, hl, Text.editorLength_eq, hnarrow]
    rfl

/-! ### Hints -/

/-- Blocks that were read from an output can be counted: their numerals were not too long. -/
theorem hasShortCount_of_read {output : String} {blocks : List Block}
    (h : Framing.read output = .ok blocks) : ∀ block ∈ blocks, Hint.HasShortCount block := by
  obtain ⟨frames, -, rfl⟩ := (Framing.read_eq_ok_iff output blocks).1 h
  intro block hblock
  obtain ⟨frame, -, rfl⟩ := List.mem_map.1 hblock
  exact frame.lineCount.length_natDigits_value_le

/-- **A document is an open source with some text, and blocks are kept for it.**  They can be
counted, as all blocks can that were read. -/
structure Serves [Editor] (uri text : String) (blocks : List Block) (s : Session) : Prop where
  path : ∃ path, Uri.filePath uri = .ok path ∧ isSourcePath path = true
  document : ∃ document, s.document? (Editor.key uri) = some document ∧ document.text = text
  counts : ∀ block ∈ blocks, Hint.HasShortCount block
  blocks : s.blocks.get? uri = some blocks

section Serves

variable [Editor] {uri text : String} {blocks : List Block} {s : Session} {first last : Int}

/-- **The hints of a range of a source:** none is refused if an editor can have the lines of the
range and the ends of the pieces. -/
theorem hints_of_serves (h : Serves uri text blocks s) (reading : Except Failure String)
    (hlength : ∀ piece ∈ sourceLines text, piece.length ≤ Hint.maxPlace) (hfirst : 0 ≤ first)
    (hlast : last ≤ Hint.maxPlace) :
    hints reading uri first last s =
      (.ok ((rangeLines blocks first last).map
        (ofGroup blocks (sourceLines text) s.stage.shown)), s) := by
  obtain ⟨⟨path, hpath, hsource⟩, ⟨document, hdocument, rfl⟩, hcounts, hblocks⟩ := h
  obtain ⟨document?, hfound⟩ := exists_findDocument_ok ⟨path, hpath⟩ s
  have htext : documentText reading uri s = (.ok document.text, s) :=
    documentText_of_readText ⟨path, hpath⟩ (readText?_of_open hdocument)
  rw [hints, Act.bind_apply, Act.bind_ok _ hfound, hpath]
  simp only [Act.ofExcept_ok_bind_apply, Act.look_bind_apply, id_eq, hblocks, hsource]
  cases blocks with
  | nil => rfl
  | cons block blocks =>
      dsimp only
      rw [Act.bind_apply, Act.bind_ok _ htext]
      simp only [Hint.build_eq_ok (block :: blocks) s.stage.shown Editor.takesProtocol hlength
        hfirst hlast fun other hother _ _ => hcounts other hother]
      rfl

/-- **The hints that stand at the end of their line.**  A line of the range that owns a block has
one hint, which stands at its end exactly if the server measures the line as an editor does.  If no
return stands alone in the text, this is so exactly if the line has as many wide characters as
returns in front of its newline; and it is so for every line of every beginning of the text exactly
if the text has neither a return nor a wide character. -/
theorem hints_atLineEnd_iff {line : Nat} {l : List Char} (hserves : Serves uri text blocks s)
    (reading : Except Failure String)
    (hlength : ∀ piece ∈ sourceLines text, piece.length ≤ Hint.maxPlace) (hfirst : 0 ≤ first)
    (hlast : last ≤ Hint.maxPlace) (hl : (editorLines text.toList)[line]? = some l)
    (hbehind : first ≤ line) (hbefore : line ≤ last)
    (hblock : ∃ block ∈ blocks, block.line - 1 = (line : Int)) :
    ∃ replied hint, hints reading uri first last s = (.ok replied, s) ∧
      (∀ other, other ∈ replied ∧ other.line = line ↔ other = hint) ∧
      (hint.character = editorLength l ↔ IsMeasured text.toList line) ∧
      (PairsReturns text.toList → (IsMeasured text.toList line ↔
        l.countP isWide = (serverLine text.toList line).count '\r')) ∧
      ((∀ start, start <+: text.toList → ∀ line, IsMeasured start line) ↔
        ∀ c ∈ text.toList, c ≠ '\r' ∧ isWide c = false) := by
  have hvisible : (line : Int) ∈ rangeLines blocks first last :=
    (Hint.mem_rangeLines_iff blocks first last line).2 ⟨hbehind, hbefore, hblock⟩
  refine ⟨_, ofGroup blocks (sourceLines text) s.stage.shown line,
    hints_of_serves hserves reading hlength hfirst hlast, ?_, ?_,
    fun hpairs => isMeasured_iff_of_pairsReturns hpairs hl, forall_start_isMeasured_iff _⟩
  · intro other
    constructor
    · rintro ⟨hother, hline⟩
      obtain ⟨asked, -, rfl⟩ := List.mem_map.1 hother
      obtain rfl : asked = line := hline
      rfl
    · rintro rfl
      exact ⟨List.mem_map_of_mem hvisible, rfl⟩
  · have hcharacter : (ofGroup blocks (sourceLines text) s.stage.shown line).character =
        (serverLine text.toList line).length := lengthAt_sourceLines text line
    rw [hcharacter, isMeasured_iff hl]

end Serves

section Decoding

attribute [local instance] Editor.decoding

/-- A server that keeps a block of the first line of a source. -/
def keptFor (text : String) : Session where
  documents := [{ uri := "file:///work/kernels.py", text }]
  blocks := ({} : Table (List Block)).set "file:///work/kernels.py" [⟨1, 4, "f", "int32", "x"⟩]

theorem serves_keptFor (text : String) :
    Serves "file:///work/kernels.py" text [⟨1, 4, "f", "int32", "x"⟩] (keptFor text) where
  path := ⟨"/work/kernels.py", rfl, by decide +kernel⟩
  document := by
    have hkey : Editor.key "file:///work/kernels.py" = "file:///work/kernels.py" := by
      decide +kernel
    exact ⟨{ uri := "file:///work/kernels.py", text }, by simp [document?, keptFor, hkey], rfl⟩
  blocks := by simp [keptFor]
  counts := by decide

/-- The hint of a line with a wide character and a return in front of its newline stands at the end
of the line. -/
theorem hints_atLineEnd_wideBeforeReturn :
    Serves "file:///work/kernels.py" "s = '😀'\r\nf = 1" [⟨1, 4, "f", "int32", "x"⟩]
        (keptFor "s = '😀'\r\nf = 1") ∧
      PairsReturns "s = '😀'\r\nf = 1".toList ∧
      ∃ replied hint, hints (.ok "") "file:///work/kernels.py" 0 1 (keptFor "s = '😀'\r\nf = 1") =
          (.ok replied, keptFor "s = '😀'\r\nf = 1") ∧
        hint ∈ replied ∧ hint.line = 0 ∧ hint.character = editorLength "s = '😀'".toList := by
  have hpairs : PairsReturns "s = '😀'\r\nf = 1".toList := by decide
  have hl : (editorLines "s = '😀'\r\nf = 1".toList)[0]? = some "s = '😀'".toList := by decide
  have hfirst : (0 : Int) ≤ 0 := Int.le_refl 0
  have hlast : (1 : Int) ≤ Hint.maxPlace := by decide
  refine ⟨serves_keptFor _, hpairs, ?_⟩
  obtain ⟨replied, hint, hreply, honly, hend, hpaired, -⟩ :=
    hints_atLineEnd_iff (serves_keptFor "s = '😀'\r\nf = 1") (.ok "") (by decide) hfirst hlast hl
      (by decide) (by decide) ⟨_, List.mem_cons_self, rfl⟩
  obtain ⟨hmem, hline⟩ := (honly hint).2 rfl
  exact ⟨replied, hint, hreply, hmem, hline, hend.2 ((hpaired hpairs).2 (by decide))⟩

/-- The hint of a line with a wide character stands in the line, and that of a line with a return in
front of its newline stands behind the line. -/
theorem exists_hint_misplaced :
    (hints (.ok "") "file:///work/kernels.py" 0 0 (keptFor "s = '😀'")).1 =
        .ok [⟨0, 7, "f(int32): 4 lines native"⟩] ∧
      (editorLines "s = '😀'".toList)[0]? = some "s = '😀'".toList ∧
      editorLength "s = '😀'".toList = 8 ∧
      (hints (.ok "") "file:///work/kernels.py" 0 0 (keptFor "f = 1\r\n")).1 =
        .ok [⟨0, 6, "f(int32): 4 lines native"⟩] ∧
      (editorLines "f = 1\r\n".toList)[0]? = some "f = 1".toList ∧
      editorLength "f = 1".toList = 5 := by
  refine ⟨by rfl, by decide, by decide, by rfl, by decide, by decide⟩

end Decoding

end JitExplorer.Session
