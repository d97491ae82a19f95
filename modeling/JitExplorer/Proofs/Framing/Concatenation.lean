/-
**Framed outputs one after another.**

A text that is read can be followed by any other text.  The reader takes the frames of the first one
off and goes on as if it began with the second one; all that changes is the number of the line that
it names in a fault, which grows by the lines in front.

Main definitions:

* `Framing.ReadFault.shift` — a fault with more lines in front of it.

Main results:

* `Framing.framedLines_unpieces_append` — lines that were written out stay lines of their own;
* `Framing.readLines_add` — the number of the first line matters for the lines of faults only;
* `Framing.read_append_eq` — reading one text behind another one;
* `Framing.read_append_of_read` — **reading goes on behind a text that is read,** with the same
  blocks and the same faults.
-/

import JitExplorer.Proofs.Framing.Faults
import Mathlib.Control.Monad.Basic

set_option autoImplicit false

namespace JitExplorer.Framing

/-! ### Lines -/

/-- Lines that were written out stay lines of their own in front of any text. -/
theorem framedLines_unpieces_append {ls : List (List Char)} (hls : ∀ l ∈ ls, '\n' ∉ l)
    (s : List Char) : framedLines (Text.unpieces ls ++ s) = ls ++ framedLines s := by
  have hne := Text.pieces_ne_nil s
  have hlast : (ls ++ Text.pieces s).getLast? = (Text.pieces s).getLast? := by
    rw [List.getLast?_append, List.getLast?_eq_some_getLast hne, Option.some_or]
  simp only [framedLines, Text.pieces_unpieces_append ls s hls, hlast]
  split
  · exact List.dropLast_append_of_ne_nil hne
  · rfl

/-! ### Faults behind more lines -/

/-- A fault with more lines in front of it. -/
def ReadFault.shift (k : Nat) : ReadFault → ReadFault
  | .noHeader line got => .noHeader (k + line) got
  | .endsEarly line name declared => .endsEarly (k + line) name declared
  | .noSeparator line name => .noSeparator (k + line) name
  | .oversized digits => .oversized digits

@[simp] theorem ReadFault.detail_shift (k : Nat) (fault : ReadFault) :
    (fault.shift k).detail = fault.detail := by
  cases fault <;> rfl

@[simp] theorem ReadFault.line?_shift (k : Nat) (fault : ReadFault) :
    (fault.shift k).line? = fault.line?.map (k + ·) := by
  cases fault <;> rfl

/-- A fault of the framing names a later line, and says the same about it. -/
theorem ReadFault.toFailure_shift_iff (k : Nat) (fault : ReadFault) (line : Int) (detail : String) :
    (fault.shift k).toFailure = .explorer (.framing (line + k) detail) ↔
      fault.toFailure = .explorer (.framing line detail) := by
  simp only [toFailure_eq_framing_iff, line?_shift, detail_shift, Option.map_eq_some_iff]
  constructor
  · rintro ⟨_, ⟨n, hn, rfl⟩, hline, rfl⟩
    exact ⟨n, hn, by omega, rfl⟩
  · rintro ⟨n, hn, rfl, rfl⟩
    exact ⟨k + n, ⟨n, hn, rfl⟩, by omega, rfl⟩

theorem FailsAt.shift {i : Nat} {ls : List (List Char)} {fault : ReadFault} (h : FailsAt i ls fault)
    (k : Nat) : FailsAt (k + i) ls (fault.shift k) := by
  cases h with
  | noHeader hl => exact .noHeader hl
  | longLine hl hline => exact .longLine hl hline
  | longCount hl hline hcount => exact .longCount hl hline hcount
  | endsEarly hl hline hcount hlen => exact .endsEarly hl hline hcount hlen
  | noSeparator hl hline hcount hlen hsep =>
      rw [ReadFault.shift, ← Nat.add_assoc, ← Nat.add_assoc]
      exact .noSeparator hl hline hcount hlen hsep

/-- **The number of the first line matters for the lines of faults only.** -/
theorem readLines_add (k i : Nat) {ls : List (List Char)} (hls : ∀ l ∈ ls, '\n' ∉ l) :
    readLines (k + i) ls = (readLines i ls).mapError (ReadFault.shift k) := by
  cases h : readLines i ls with
  | ok blocks =>
      obtain ⟨frames, rfl⟩ := exists_frames_of_readLines hls h
      have hall := fun j => readLines_frames_append j frames []
      simp only [List.append_nil, readLines_nil] at hall
      rw [hall] at h ⊢
      exact h
  | error fault =>
      obtain ⟨frames, rest, rfl, hfails⟩ := exists_failsAt_of_readLines hls h
      refine (readLines_eq_error_iff hls _).2 ⟨frames, rest, rfl, ?_⟩
      rw [Nat.add_assoc]
      exact hfails.shift k

/-! ### Texts one after another -/

/-- Reading one text behind another one that is read. -/
theorem read_append_eq {first : String} {blocks : List Block} (h : read first = .ok blocks)
    (second : String) :
    read (first ++ second) =
      ((read second).mapError (ReadFault.shift (first.toList.count '\n'))).map (blocks ++ ·) := by
  obtain ⟨frames, hfirst, rfl⟩ := (read_eq_ok_iff _ _).1 h
  have hframes : ∀ l ∈ frames.flatMap Frame.lines, '\n' ∉ l := fun l hl =>
    Frame.newline_notMem_of_mem_flatMap_lines hl
  have hlines : framedLines (first ++ second).toList =
      frames.flatMap Frame.lines ++ framedLines second.toList := by
    rw [String.toList_append, hfirst, ← Frame.unpieces_flatMap_lines,
      framedLines_unpieces_append hframes]
  have hcount : first.toList.count '\n' = 0 + (frames.flatMap Frame.lines).length := by
    rw [hfirst, ← Frame.unpieces_flatMap_lines, Text.count_newline_unpieces _ hframes, Nat.zero_add]
  rw [read, hlines, readLines_frames_append, ← hcount, read,
    ← readLines_add _ 0 fun _ => newline_notMem_of_mem_framedLines, Nat.add_zero]

theorem read_append_eq_ok_iff {first : String} {blocks : List Block} (h : read first = .ok blocks)
    (second : String) (all : List Block) :
    read (first ++ second) = .ok all ↔ ∃ more, read second = .ok more ∧ all = blocks ++ more := by
  rw [read_append_eq h]
  cases read second with
  | ok more => simp [Except.map, Except.mapError, eq_comm]
  | error fault => simp [Except.map, Except.mapError]

theorem failsWith_append_iff {first : String} {blocks : List Block} (h : read first = .ok blocks)
    (second : String) (line : Int) (detail : String) :
    FailsWith (first ++ second) (.explorer (.framing (line + first.toList.count '\n') detail)) ↔
      FailsWith second (.explorer (.framing line detail)) := by
  have happend := read_append_eq h second
  cases hsecond : read second with
  | ok more =>
      rw [hsecond] at happend
      exact iff_of_false (not_failsWith_of_ok happend _) (not_failsWith_of_ok hsecond _)
  | error fault =>
      rw [hsecond] at happend
      rw [failsWith_iff_of_error happend, failsWith_iff_of_error hsecond,
        ReadFault.toFailure_shift_iff]

/-- **Reading goes on behind a text that is read.**  What is read of two texts are the blocks of the
first one and those of the second one; and a fault of the framing in the second one is the same
fault of both together, behind the lines of the first one. -/
theorem read_append_of_read {first : String} {blocks : List Block} (h : read first = .ok blocks)
    (second : String) :
    (∀ all, read (first ++ second) = .ok all ↔
        ∃ more, read second = .ok more ∧ all = blocks ++ more) ∧
      ∀ line detail,
        FailsWith (first ++ second)
            (.explorer (.framing (line + first.toList.count '\n') detail)) ↔
          FailsWith second (.explorer (.framing line detail)) :=
  ⟨read_append_eq_ok_iff h second, failsWith_append_iff h second⟩

/-- Behind a block with a text of two lines, a block without its empty line. -/
theorem read_append_withoutSeparator :
    read "<4 2 f a>b>\n\nx\n\n" =
        .ok [{ line := 4, lineCount := 2, name := "f", args := "a>b", text := "\nx\n" }] ∧
      FailsWith "<9 1 g >\ny\n" (.explorer (.framing 3 "missing blank line after block g")) ∧
      FailsWith ("<4 2 f a>b>\n\nx\n\n" ++ "<9 1 g >\ny\n")
        (.explorer (.framing 7 "missing blank line after block g")) := by
  have hfirst : read "<4 2 f a>b>\n\nx\n\n" =
      .ok [{ line := 4, lineCount := 2, name := "f", args := "a>b", text := "\nx\n" }] := by
    decide +kernel
  have hsecond : FailsWith "<9 1 g >\ny\n"
      (.explorer (.framing 3 "missing blank line after block g")) :=
    ⟨.noSeparator 3 ['g'], by decide +kernel, by decide⟩
  exact ⟨hfirst, hsecond, ((read_append_of_read hfirst _).2 3 _).2 hsecond⟩

end JitExplorer.Framing
