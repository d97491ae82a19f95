/-
**The output read by the server.**

The explorer writes its output with newlines as they are.  The server, in another process, reads
the file as a text in which every line end becomes a newline.  So the blocks that were written are
the blocks that are read exactly if no carriage return is among them; a stage text with one makes
the server count more lines than the header declares.

Main definitions:

* `Framing.Entry.KeepsLineEnds` — an entry without a carriage return.

Main results:

* `Invocation.result_write_eq_ok_iff` — which entries are read back from a file;
* `Invocation.reads_written_iff` — **which runs are read back by the server.**
-/

import JitExplorer.Proofs.Pipeline.Output
import JitExplorer.Proofs.Text.Encoding
import JitExplorer.Invocation

set_option autoImplicit false

namespace JitExplorer

namespace Framing

/-! ### Carriage returns in what is written -/

/-- No field of an entry that may hold any character holds a carriage return. -/
structure Entry.KeepsLineEnds (entry : Entry) : Prop where
  argTypes_no_return : ∀ argType ∈ entry.argTypes, '\r' ∉ argType.toList
  text_no_return : '\r' ∉ entry.output.text.toList

/-- An entry with a proper name and no carriage return writes none. -/
theorem return_notMem_writeEntry {entry : Entry} (hkeeps : entry.KeepsHeader)
    (hends : entry.KeepsLineEnds) : '\r' ∉ (writeEntry entry).toList := by
  have hname : '\r' ∉ entry.name.toList := by
    intro h
    have hblank := hkeeps.name_not_blank _ h
    revert hblank
    decide
  have hargs : '\r' ∉ (Text.join ", " entry.argTypes).toList := by
    rw [mem_join_iff (by decide)]
    rintro ⟨argType, hmem, h⟩
    exact hends.argTypes_no_return argType hmem h
  have hnumber : ∀ n, '\r' ∉ Text.intDigits n := Text.notMem_intDigits (by decide) (by decide)
  rw [toList_writeEntry]
  simp [hnumber, hname, hargs, hends.text_no_return]

theorem return_notMem_write {entries : List Entry}
    (h : ∀ entry ∈ entries, entry.KeepsHeader ∧ entry.KeepsLineEnds) :
    '\r' ∉ (write entries).toList := by
  rw [toList_write, List.mem_flatMap]
  rintro ⟨entry, hentry, hreturn⟩
  exact return_notMem_writeEntry (h entry hentry).1 (h entry hentry).2 hreturn

/-! ### Entries that are read as blocks of frames -/

/-- An entry that is read as the block of a frame has short numbers. -/
theorem Entry.hasShortNumbers_of_block_eq {entry : Entry} {frame : Frame}
    (h : frame.block = entry.block) : entry.HasShortNumbers := by
  simp only [Frame.block, Entry.block, Block.mk.injEq] at h
  obtain ⟨hline, hcount, -, -, -⟩ := h
  refine ⟨?_, ?_⟩
  · rw [← hline, Int.natAbs_natCast]
    exact frame.line.length_natDigits_value_le
  · rw [← hcount, Int.natAbs_natCast]
    exact frame.lineCount.length_natDigits_value_le

/-- An entry that is read as the block of a frame without a carriage return has none either. -/
theorem Entry.keepsLineEnds_of_block_eq {entry : Entry} {frame : Frame}
    (h : frame.block = entry.block) (hreturn : '\r' ∉ frame.text) : entry.KeepsLineEnds := by
  simp only [Frame.block, Entry.block, Block.mk.injEq] at h
  obtain ⟨-, -, -, hargs, htext⟩ := h
  refine ⟨fun argType hmem hr => hreturn ?_, fun hr => hreturn ?_⟩
  · have hjoin := (mem_join_iff (by decide) entry.argTypes).2 ⟨argType, hmem, hr⟩
    rw [← hargs, String.toList_ofList] at hjoin
    simp [Frame.text, RawHeader.spelling, Frame.raw, hjoin]
  · rw [← htext, String.toList_ofList] at hr
    simp [Frame.text, hr]

end Framing

namespace Invocation

open Framing Pipeline Text

/-- A process that ends well has written what is read from its output file. -/
theorem result_encode_eq_ok_iff (text : String) (errors : Option String) (blocks : List Block) :
    result { output := Utf8.encode text.toList, ending := .exited 0 errors } = .ok blocks ↔
      read (String.ofList (unifyNewlines text.toList)) = .ok blocks := by
  simp only [result, if_true, readOutput, Utf8.decode_encode]
  cases read (String.ofList (unifyNewlines text.toList)) with
  | error fault => simp
  | ok read => simp

/-- **Which entries are read back from a file.** -/
theorem result_write_eq_ok_iff {entries : List Entry}
    (houtput : ∀ entry ∈ entries, ∃ s, entry.output = StageOutput.ofText s)
    (errors : Option String) :
    result { output := Utf8.encode (write entries).toList, ending := .exited 0 errors } =
        .ok (entries.map Entry.block) ↔
      ∀ entry ∈ entries, entry.KeepsHeader ∧ entry.HasShortNumbers ∧ entry.KeepsLineEnds := by
  rw [result_encode_eq_ok_iff]
  constructor
  · -- What the server reads has no carriage return, so neither has any frame that it reads.
    intro h entry hentry
    obtain ⟨frames, htext, hblocks⟩ := (read_eq_ok_iff _ _).1 h
    have hmem : entry.block ∈ frames.map Frame.block := by
      rw [← hblocks]
      exact List.mem_map_of_mem hentry
    obtain ⟨frame, hframe, hblock⟩ := List.mem_map.1 hmem
    have hreturn : '\r' ∉ frame.text := by
      intro hr
      have hall : '\r' ∈ frames.flatMap Frame.text := List.mem_flatMap.2 ⟨frame, hframe, hr⟩
      rw [← htext, String.toList_ofList] at hall
      exact return_notMem_unifyNewlines _ hall
    exact ⟨Entry.keepsHeader_of_block_eq hblock, Entry.hasShortNumbers_of_block_eq hblock,
      Entry.keepsLineEnds_of_block_eq hblock hreturn⟩
  · intro h
    have hreturn := return_notMem_write fun e he => ⟨(h e he).1, (h e he).2.2⟩
    rw [unifyNewlines_of_notMem hreturn, String.ofList_toList]
    exact read_write_of_keepsHeader houtput fun e he => ⟨(h e he).1, (h e he).2.1⟩

/-- **Which runs are read back by the server.**  If the explorer succeeds, its output holds the
blocks of all specializations, and the server reads these blocks exactly if no field of any of them
breaks its header line, their numbers are short, and none of them holds a carriage return. -/
theorem reads_written_iff {σ : Type} (toolchain : Toolchain σ) (arguments : Arguments)
    {bench after : Bench σ} {n : Nat} (h : generate toolchain arguments bench = (.ok n, after)) :
    ∃ context found prepared place written last text,
      enumerated toolchain arguments bench = (.ok (context, found), prepared) ∧
      prepared.files.target arguments.outputPath = .ok place ∧
      Extracted toolchain arguments prepared.compiler written last ∧
      found = written.map Prod.fst ∧
      after.files.node? place = some (.text text) ∧
      ∀ errors,
        result { output := Utf8.encode text.toList, ending := .exited 0 errors } =
            .ok ((entriesOf written).map Entry.block) ↔
          ∀ entry ∈ entriesOf written,
            entry.KeepsHeader ∧ entry.HasShortNumbers ∧ entry.KeepsLineEnds := by
  obtain ⟨context, found, prepared, place, written, last, hfound, hplace, hextracted, hall, -,
    hleaves⟩ := exists_of_generate_ok h
  exact ⟨context, found, prepared, place, written, last, _, hfound, hplace, hextracted, hall,
    hleaves.content, result_write_eq_ok_iff hextracted.exists_ofText⟩

/-- A bench with a source of one callable, with one specialization that has the given stage text. -/
def benchOf (text : String) : Bench Script where
  compiler := { bindings := [("f", .callable { definitions := [{
    line := 4
    items := .lone (some { argTypes := .ok ["int32"], texts := [(.native, text)] }) }] })] }
  files := { entries := [(["work", "in.py"], .source .finishes)] }

/-- A stage text with characters of two to four bytes and a line like a header is read back. -/
theorem reads_written_header_in_text :
    ∃ after, generate Script.toolchain nativeArguments (benchOf "é→𝄞\n\n<1 0 f >") =
        (.ok 1, after) ∧
      ∃ text, after.files.node? ["work", "out.txt"] = some (.text text) ∧
        result { output := Utf8.encode text.toList } =
          .ok [{ line := 4, lineCount := 3, name := "f", args := "int32",
                 text := "é→𝄞\n\n<1 0 f >\n" }] := by
  let bench := benchOf "é→𝄞\n\n<1 0 f >"
  let f : Specialization := ⟨⟨"f", [0]⟩, ["int32"], ⟨⟨"f", [0]⟩, 4, [0, 0]⟩, [0, 0, 0]⟩
  have hrun : generate Script.toolchain nativeArguments bench =
      (.ok 1, (generate Script.toolchain nativeArguments bench).2) :=
    Prod.fst_eq_iff.1 (by decide +kernel)
  obtain ⟨context, found, prepared, place, written, last, text, hfound, hplace, hextracted, hall,
    hcontent, hread⟩ := reads_written_iff Script.toolchain nativeArguments hrun
  have hplace' : (enumerated Script.toolchain nativeArguments bench).2.files.target
      nativeArguments.outputPath = .ok ["work", "out.txt"] := by
    decide +kernel
  rw [hfound] at hplace'
  obtain rfl : place = ["work", "out.txt"] := by simpa [hplace] using hplace'
  have hfound' : (enumerated Script.toolchain nativeArguments bench).1 =
      .ok (⟨"numba_explorer_input_0", "/work/in.py"⟩, [f]) := by decide +kernel
  have houtput : (Extraction.outcome Script.toolchain nativeArguments f
      (enumerated Script.toolchain nativeArguments bench).2.compiler).1 =
        .ok { text := "é→𝄞\n\n<1 0 f >\n", lineCount := 3 } := by decide +kernel
  rw [hfound] at hfound' houtput
  -- One specialization is found, so one is written, and its text is the one of the script.
  cases hextracted with
  | nil => simp [hall] at hfound'
  | @cons _ next _ s output others houtcome hrest =>
      simp only [Except.ok.injEq, Prod.mk.injEq, hall, List.map_cons, List.cons.injEq,
        List.map_eq_nil_iff] at hfound'
      obtain ⟨-, rfl, rfl⟩ := hfound'
      rw [houtcome, Except.ok.injEq] at houtput
      subst houtput
      refine ⟨_, hrun, text, hcontent, (hread none).2 (List.forall_mem_singleton.2 ⟨?_, ?_, ?_⟩)⟩
      · have hname : ∀ c ∈ "f".toList, isBlank c = false :=
          List.forall_mem_singleton.2 (by decide)
        exact ⟨by decide, by decide, hname, by decide⟩
      · exact ⟨by decide +kernel, by decide +kernel⟩
      · exact ⟨by decide, by decide⟩

/-- A carriage return in a stage text is a line too many for the server. -/
theorem exists_unread_return :
    ∃ after, generate Script.toolchain nativeArguments (benchOf "a\rb") = (.ok 1, after) ∧
      ∃ entry : Entry, entry.KeepsHeader ∧ entry.HasShortNumbers ∧
        entry.output = StageOutput.ofText "a\rb" ∧
        after.files.node? ["work", "out.txt"] = some (.text (write [entry])) ∧
        result { output := Utf8.encode (write [entry]).toList } =
          .error (.raised (.explorer (.framing 3 "missing blank line after block f"))) := by
  refine ⟨_, Prod.fst_eq_iff.1 (by decide +kernel), ⟨4, "f", ["int32"], .ofText "a\rb"⟩, ?_, ?_,
    rfl, by decide +kernel, by decide +kernel⟩
  · exact ⟨by decide, by decide, List.forall_mem_singleton.2 (by decide), by decide⟩
  · exact ⟨by decide +kernel, by decide +kernel⟩

end Invocation

end JitExplorer
