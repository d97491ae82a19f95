/-
**The framing read and written.**

Two statements about the reader and the writer.  The first one is about texts: those that are read
are the texts of frames, in one way only, and writing the blocks again and reading them gives the
same blocks.  The second one is about entries: what is written for some entries is read back as
their blocks exactly if no field of an entry breaks its header line.  The texts of the stages may be
anything, since their lines are counted.

Main definitions:

* `Framing.Entry.block` — the block that an entry is meant to be read as;
* `Framing.Entry.KeepsHeader` — no field of an entry breaks its header line;
* `Framing.Entry.ofBlock` — an entry that writes a block again.

Main results:

* `Framing.read_iff_frames` — the grammar of framed outputs;
* `Framing.read_write_eq_ok_iff` — which entries survive being written and read.
-/

import JitExplorer.Proofs.Framing.Frame

set_option autoImplicit false

namespace JitExplorer.Framing

/-! ### Entries and their blocks -/

/-- The block that an entry is meant to be read as. -/
def Entry.block (entry : Entry) : Block where
  line := entry.line
  lineCount := entry.output.lineCount
  name := entry.name
  args := Text.join ", " entry.argTypes
  text := entry.output.text

/-- No field of an entry breaks its header line. -/
structure Entry.KeepsHeader (entry : Entry) : Prop where
  line_nonneg : 0 ≤ entry.line
  name_ne_nil : entry.name.toList ≠ []
  name_not_blank : ∀ c ∈ entry.name.toList, Text.isBlank c = false
  argTypes_no_newline : ∀ argType ∈ entry.argTypes, '\n' ∉ argType.toList

/-- An entry that writes a block again. -/
def Entry.ofBlock (block : Block) : Entry where
  line := block.line
  name := block.name
  argTypes := [block.args]
  output := { text := block.text, lineCount := block.lineCount }

@[simp] theorem Entry.block_ofBlock (block : Block) : (Entry.ofBlock block).block = block := rfl

/-- A joined list of texts holds a character exactly if one of the texts does, unless it is one of
the separator. -/
theorem mem_join_iff {c : Char} (hc : c ∉ ", ".toList) (texts : List String) :
    c ∈ (Text.join ", " texts).toList ↔ ∃ t ∈ texts, c ∈ t.toList := by
  -- A single text is joined without a separator, so the cases are those of joining.
  match texts with
  | [] => simp [Text.join]
  | [t] => simp [Text.join]
  | t :: u :: texts =>
      have hrest := mem_join_iff hc (u :: texts)
      simp only [Text.join, String.toList_append, List.mem_append, hrest, hc, or_false]
      simp

/-- A joined list of texts holds a newline exactly if one of the texts does. -/
theorem newline_mem_join_iff (texts : List String) :
    '\n' ∈ (Text.join ", " texts).toList ↔ ∃ t ∈ texts, '\n' ∈ t.toList :=
  mem_join_iff (by decide) texts

/-! ### What an entry writes -/

theorem toList_writeEntry (entry : Entry) :
    (writeEntry entry).toList =
      '<' :: (Text.intDigits entry.line ++ ' ' :: (Text.intDigits entry.output.lineCount ++
        ' ' :: (entry.name.toList ++ ' ' :: ((Text.join ", " entry.argTypes).toList ++ ['>'])))) ++
        '\n' :: (entry.output.text.toList ++ ['\n']) := by
  simp [writeEntry, header, Text.intText, String.toList_append]

theorem toList_write (entries : List Entry) :
    (write entries).toList = entries.flatMap fun entry => (writeEntry entry).toList := by
  induction entries with
  | nil => rfl
  | cons entry entries ih => simp [write, ih, String.toList_append]

/-- **An entry whose header line is kept writes a frame.**  The frame has canonical numerals. -/
theorem exists_frame_of_entry {entry : Entry} (body : List (List Char))
    (hkeeps : entry.KeepsHeader) (hshort : entry.HasShortNumbers) (hbody : ∀ l ∈ body, '\n' ∉ l)
    (htext : entry.output.text = String.ofList (Text.unpieces body))
    (hcount : entry.output.lineCount = body.length) :
    ∃ frame : Frame, (writeEntry entry).toList = frame.text ∧ frame.block = entry.block := by
  obtain ⟨n, hn⟩ := Int.eq_ofNat_of_zero_le hkeeps.line_nonneg
  have hline := hshort.line
  have hlineCount := hshort.lineCount
  rw [hn, Int.natAbs_natCast] at hline
  rw [hcount, Int.natAbs_natCast] at hlineCount
  have hargs : '\n' ∉ (Text.join ", " entry.argTypes).toList := by
    rw [newline_mem_join_iff]
    rintro ⟨t, ht, hnl⟩
    exact hkeeps.argTypes_no_newline t ht hnl
  refine ⟨{
    line := Numeral.ofNat n hline
    lineCount := Numeral.ofNat body.length hlineCount
    name := entry.name.toList
    args := (Text.join ", " entry.argTypes).toList
    body
    name_ne_nil := hkeeps.name_ne_nil
    name_not_blank := hkeeps.name_not_blank
    args_no_newline := hargs
    body_no_newline := hbody
    length_body := (Numeral.value_ofNat _ hlineCount).symm }, ?_, ?_⟩
  · rw [toList_writeEntry, hn, hcount, htext, String.toList_ofList]
    rfl
  · simp [Frame.block, Entry.block, hn, hcount, htext]

/-- Entries that write frames are read back as their blocks. -/
theorem read_write_of_frames {entries : List Entry}
    (h : ∀ entry ∈ entries, ∃ frame : Frame,
      (writeEntry entry).toList = frame.text ∧ frame.block = entry.block) :
    read (write entries) = .ok (entries.map Entry.block) := by
  obtain ⟨frames, htext, hblock⟩ : ∃ frames : List Frame,
      (write entries).toList = frames.flatMap Frame.text ∧
        frames.map Frame.block = entries.map Entry.block := by
    induction entries with
    | nil => exact ⟨[], rfl, rfl⟩
    | cons entry entries ih =>
        obtain ⟨frame, hframe, hb⟩ := h entry (by simp)
        obtain ⟨frames, htext, hblocks⟩ := ih fun e he => h e (List.mem_cons_of_mem entry he)
        refine ⟨frame :: frames, ?_, by simp [hb, hblocks]⟩
        rw [toList_write] at htext ⊢
        rw [List.flatMap_cons, List.flatMap_cons, hframe, htext]
  rw [read_of_flatMap_text htext, hblock]

/-! ### The grammar -/

/-- A block of a frame is written again as a frame. -/
theorem exists_frame_of_ofBlock (frame : Frame) :
    ∃ canonical : Frame, (writeEntry (Entry.ofBlock frame.block)).toList = canonical.text ∧
      canonical.block = (Entry.ofBlock frame.block).block := by
  refine exists_frame_of_entry frame.body ?_ ?_ frame.body_no_newline rfl ?_
  · exact {
      line_nonneg := Int.natCast_nonneg _
      name_ne_nil := by simpa [Entry.ofBlock, Frame.block] using frame.name_ne_nil
      name_not_blank := by simpa [Entry.ofBlock, Frame.block] using frame.name_not_blank
      argTypes_no_newline := by simpa [Entry.ofBlock, Frame.block] using frame.args_no_newline }
  · exact {
      line := frame.line.length_natDigits_value_le
      lineCount := frame.lineCount.length_natDigits_value_le }
  · simp [Entry.ofBlock, Frame.block, frame.length_body]

/-- **The grammar of framed outputs.**  A text is read exactly if it is a sequence of frames; the
frames are determined by the text; the blocks that are read are theirs; and these blocks, written
with canonical numerals, are read again. -/
theorem read_iff_frames (text : String) :
    ((∃ blocks, read text = .ok blocks) ↔
      ∃ frames : List Frame, text.toList = frames.flatMap Frame.text) ∧
    (∀ frames others : List Frame, text.toList = frames.flatMap Frame.text →
      text.toList = others.flatMap Frame.text → frames = others) ∧
    ∀ frames : List Frame, text.toList = frames.flatMap Frame.text →
      read text = .ok (frames.map Frame.block) ∧
        read (write ((frames.map Frame.block).map Entry.ofBlock)) =
          .ok (frames.map Frame.block) := by
  refine ⟨⟨?_, ?_⟩, ?_, ?_⟩
  · rintro ⟨blocks, h⟩
    obtain ⟨frames, htext, -⟩ := (read_eq_ok_iff text blocks).1 h
    exact ⟨frames, htext⟩
  · rintro ⟨frames, htext⟩
    exact ⟨_, read_of_flatMap_text htext⟩
  · intro frames others hframes hothers
    exact frames_eq_of_flatMap_text (hframes.symm.trans hothers)
  · intro frames htext
    refine ⟨read_of_flatMap_text htext, ?_⟩
    rw [read_write_of_frames]
    · simp [Function.comp_def]
    · intro entry hentry
      simp only [List.map_map, List.mem_map, Function.comp_apply] at hentry
      obtain ⟨frame, -, rfl⟩ := hentry
      exact exists_frame_of_ofBlock frame

/-- A numeral of another script, a bracket among the arguments, and a body without lines. -/
theorem read_foreign_numeral :
    ∃ frame : Frame, "<٣ 0 f a>b>\n\n".toList = [frame].flatMap Frame.text ∧
      read "<٣ 0 f a>b>\n\n" =
        .ok [{ line := 3, lineCount := 0, name := "f", args := "a>b", text := "" }] := by
  let frame : Frame := {
    line := ⟨['٣'], by decide, List.forall_mem_singleton.2 (by decide), by decide +kernel⟩
    lineCount := ⟨['0'], by decide, List.forall_mem_singleton.2 (by decide), by decide +kernel⟩
    name := ['f']
    args := ['a', '>', 'b']
    body := []
    name_ne_nil := by decide
    name_not_blank := List.forall_mem_singleton.2 (by decide)
    args_no_newline := by decide
    body_no_newline := by decide
    length_body := by decide }
  have htext : "<٣ 0 f a>b>\n\n".toList = [frame].flatMap Frame.text := by decide +kernel
  exact ⟨frame, htext, ((read_iff_frames _).2.2 [frame] htext).1⟩

/-! ### Entries that survive -/

/-- A text of a compiler is written as lines, which are counted. -/
theorem exists_body_of_ofText (s : String) :
    ∃ body : List (List Char), (∀ l ∈ body, '\n' ∉ l) ∧
      (StageOutput.ofText s).text = String.ofList (Text.unpieces body) ∧
      (StageOutput.ofText s).lineCount = body.length := by
  have hlast : (endWithNewline s.toList).getLast? = some '\n' := by
    unfold endWithNewline
    split
    · assumption
    · simp
  obtain ⟨body, hbody, htext⟩ := Text.exists_unpieces_of_getLast? hlast
  refine ⟨body, hbody, ?_, ?_⟩
  · rw [StageOutput.ofText_text, htext]
  · rw [StageOutput.ofText_lineCount, htext, Text.count_newline_unpieces body hbody]

/-- Entries with stage texts of any content are read back as their blocks if their header lines are
kept and their numbers are short. -/
theorem read_write_of_keepsHeader {entries : List Entry}
    (houtput : ∀ entry ∈ entries, ∃ s, entry.output = StageOutput.ofText s)
    (hentries : ∀ entry ∈ entries, entry.KeepsHeader ∧ entry.HasShortNumbers) :
    read (write entries) = .ok (entries.map Entry.block) := by
  refine read_write_of_frames fun entry hentry => ?_
  obtain ⟨s, hs⟩ := houtput entry hentry
  obtain ⟨hkeeps, hshort⟩ := hentries entry hentry
  obtain ⟨body, hbody, htext, hcount⟩ := exists_body_of_ofText s
  exact exists_frame_of_entry body hkeeps hshort hbody (hs ▸ htext) (hs ▸ hcount)

/-- An entry that is read as the block of a frame keeps its header. -/
theorem Entry.keepsHeader_of_block_eq {entry : Entry} {frame : Frame}
    (h : frame.block = entry.block) : entry.KeepsHeader := by
  simp only [Frame.block, Entry.block, Block.mk.injEq] at h
  obtain ⟨hline, -, hname, hargs, -⟩ := h
  have hname' : entry.name.toList = frame.name := by rw [← hname, String.toList_ofList]
  refine ⟨hline ▸ Int.natCast_nonneg _, hname' ▸ frame.name_ne_nil,
    hname' ▸ frame.name_not_blank, fun argType hmem hnl => ?_⟩
  have hjoin := (newline_mem_join_iff entry.argTypes).2 ⟨argType, hmem, hnl⟩
  rw [← hargs, String.toList_ofList] at hjoin
  exact frame.args_no_newline hjoin

/-- **Which entries survive.**  Entries with stage texts of any content, and with numbers that are
short enough to be read, are read back as their blocks exactly if no field of any of them breaks its
header line: the line is not negative, the name is not empty and holds no blank, and no argument
type holds a newline. -/
theorem read_write_eq_ok_iff (entries : List Entry)
    (houtput : ∀ entry ∈ entries, ∃ s, entry.output = StageOutput.ofText s)
    (hshort : ∀ entry ∈ entries, entry.HasShortNumbers) :
    read (write entries) = .ok (entries.map Entry.block) ↔
      ∀ entry ∈ entries, entry.KeepsHeader := by
  constructor
  · -- The reader returns blocks of frames only, and those are the blocks of the entries.
    intro h entry hentry
    obtain ⟨frames, -, hblocks⟩ := (read_eq_ok_iff _ _).1 h
    have hmem : entry.block ∈ frames.map Frame.block := by
      rw [← hblocks]
      exact List.mem_map_of_mem hentry
    obtain ⟨frame, -, hframe⟩ := List.mem_map.1 hmem
    exact Entry.keepsHeader_of_block_eq hframe
  · intro h
    refine read_write_of_frames fun entry hentry => ?_
    obtain ⟨s, hs⟩ := houtput entry hentry
    obtain ⟨body, hbody, htext, hcount⟩ := exists_body_of_ofText s
    exact exists_frame_of_entry body (h entry hentry) (hshort entry hentry) hbody (hs ▸ htext)
      (hs ▸ hcount)

/-- A stage text with an empty line and a line like a header, and one without any line. -/
theorem read_write_header_in_text :
    (∀ entry ∈ [Entry.mk 4 "f" ["int64", "Tuple(a, b)"] (.ofText "x\n\n<1 0 f >"),
        Entry.mk 0 "g" [] (.ofText "")],
      (∃ s, entry.output = StageOutput.ofText s) ∧ entry.HasShortNumbers ∧ entry.KeepsHeader) ∧
    read (write [Entry.mk 4 "f" ["int64", "Tuple(a, b)"] (.ofText "x\n\n<1 0 f >"),
        Entry.mk 0 "g" [] (.ofText "")]) =
      .ok [{ line := 4, lineCount := 3, name := "f", args := "int64, Tuple(a, b)",
             text := "x\n\n<1 0 f >\n" },
           { line := 0, lineCount := 1, name := "g", args := "", text := "\n" }] := by
  have h : ∀ entry ∈ [Entry.mk 4 "f" ["int64", "Tuple(a, b)"] (.ofText "x\n\n<1 0 f >"),
      Entry.mk 0 "g" [] (.ofText "")],
      (∃ s, entry.output = StageOutput.ofText s) ∧ entry.HasShortNumbers ∧ entry.KeepsHeader := by
    intro entry hentry
    simp only [List.mem_cons, List.not_mem_nil, or_false] at hentry
    rcases hentry with rfl | rfl
    · exact ⟨⟨_, rfl⟩, ⟨by decide +kernel, by decide +kernel⟩,
        ⟨by decide, by decide, List.forall_mem_singleton.2 (by decide), by decide⟩⟩
    · exact ⟨⟨_, rfl⟩, ⟨by decide +kernel, by decide +kernel⟩,
        ⟨by decide, by decide, List.forall_mem_singleton.2 (by decide), by decide⟩⟩
  refine ⟨h, (read_write_eq_ok_iff _ (fun e he => (h e he).1) fun e he => (h e he).2.1).2 ?_⟩
  exact fun e he => (h e he).2.2

end JitExplorer.Framing
