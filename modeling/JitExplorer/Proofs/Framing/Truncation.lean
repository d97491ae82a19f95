/-
**A framed output that was cut off.**

A process that dies while it writes leaves the front of its output.  A cut leaves the lines in front
of it as they are and shortens one line, so the frames in front of the cut are read as before.  What
is left of the frame in which the cut lies is no frame: a frame ends with an empty line, and a
header that is cut, even if what is left is a header again, is the last line of all.  Its numerals
cannot be too long either, because they are those of the whole header.

Main results:

* `Framing.exists_framedLines_append` — a line stays where it is if more text follows, and may only
  become longer;
* `Framing.RawHeader.eq_of_spelling_append` — a header that goes on keeps its numerals;
* `Framing.ReachesOversized.read_append_ne_ok` — a numeral that is too long stays too long;
* `Framing.read_truncated` — **a cut is refused, or leaves the first blocks.**
-/

import JitExplorer.Proofs.Framing.Concatenation

set_option autoImplicit false

namespace JitExplorer.Framing

/-! ### Lines of a text that goes on -/

/-- The lines of a text that begins with a line in front of the first newline. -/
theorem exists_framedLines_of_notMem {l : List Char} (hne : l ≠ []) (hl : '\n' ∉ l)
    (s : List Char) : ∃ more rest, framedLines (l ++ s) = (l ++ more) :: rest := by
  obtain ⟨more, rest, hs⟩ := List.exists_cons_of_ne_nil (Text.pieces_ne_nil s)
  have hpieces := Text.pieces_append_of_notMem hl hs
  cases rest with
  | nil => exact ⟨more, [], by simp [framedLines, hpieces, hne]⟩
  | cons m rest =>
      by_cases hlast : (m :: rest).getLast? = some []
      · exact ⟨more, (m :: rest).dropLast, by simp [framedLines, hpieces, hlast]⟩
      · exact ⟨more, m :: rest, by simp [framedLines, hpieces, hlast]⟩

/-- **A line stays where it is if more text follows, and may only become longer.** -/
theorem exists_framedLines_append {s l : List Char} {front back : List (List Char)}
    (h : framedLines s = front ++ l :: back) (t : List Char) :
    ∃ more rest, framedLines (s ++ t) = front ++ (l ++ more) :: rest := by
  obtain ⟨ls, last, hpieces, rfl⟩ := Text.exists_unpieces_append s
  have hpiece : ∀ m ∈ ls ++ [last], '\n' ∉ m := fun m hm =>
    Text.newline_notMem_of_mem_pieces (hpieces ▸ hm)
  have hls : ∀ m ∈ ls, '\n' ∉ m := fun m hm => hpiece m (List.mem_append_left _ hm)
  have hlast : '\n' ∉ last := hpiece last (by simp)
  rw [List.append_assoc, framedLines_unpieces_append hls]
  rw [framedLines_unpieces_append hls] at h
  by_cases hempty : last = []
  · have hnil : framedLines last = [] := by rw [hempty]; rfl
    rw [hnil, List.append_nil] at h
    exact ⟨[], back ++ framedLines (last ++ t), by simp [h]⟩
  · have hone : framedLines last = [last] := by
      simp [framedLines, Text.pieces_of_notMem hlast, hempty]
    rw [hone] at h
    -- The line is the last one, or it stands in front of it.
    rcases List.eq_nil_or_concat back with rfl | ⟨back, m, rfl⟩
    · obtain ⟨rfl, rfl⟩ : ls = front ∧ last = l := by simpa using h
      obtain ⟨more, rest, hmore⟩ := exists_framedLines_of_notMem hempty hlast t
      exact ⟨more, rest, by rw [hmore]⟩
    · rw [List.concat_eq_append, ← List.cons_append, ← List.append_assoc] at h
      obtain ⟨rfl, -⟩ := List.append_inj' h rfl
      exact ⟨[], back ++ framedLines (last ++ t), by simp⟩

/-! ### Headers that go on -/

/-- **A header that goes on keeps its numerals.** -/
theorem RawHeader.eq_of_spelling_append {raw other : RawHeader} {more : List Char}
    (hraw : raw.IsProper) (hother : other.IsProper) (h : raw.spelling ++ more = other.spelling) :
    raw.line = other.line ∧ raw.lineCount = other.lineCount := by
  rcases List.eq_nil_or_concat more with rfl | ⟨more, c, rfl⟩
  · rw [List.append_nil] at h
    rw [eq_of_spelling_eq hraw hother h]
    exact ⟨rfl, rfl⟩
  · -- The line ends with a bracket, so what is more belongs to the arguments.
    obtain rfl : c = '>' := by
      have hlast := congrArg List.getLast? h
      simpa [spelling, List.getLast?_append, List.getLast?_cons] using hlast
    let longer : RawHeader := { raw with args := raw.args ++ '>' :: more }
    have hlonger : longer.IsProper := ⟨hraw.line, hraw.lineCount, hraw.name⟩
    have hspelling : longer.spelling = other.spelling := by
      rw [← h]
      simp [spelling, longer]
    rw [← eq_of_spelling_eq hlonger hother hspelling]
    exact ⟨rfl, rfl⟩

/-- Lines that begin with a header that has a numeral that is too long do not begin with a frame,
and neither do they if that header goes on. -/
theorem exists_failsAt_of_isOversized_append (i : Nat) {raw : RawHeader} (hproper : raw.IsProper)
    (hlong : raw.IsOversized) (more : List Char) (rest : List (List Char)) :
    ∃ fault, FailsAt i ((raw.spelling ++ more) :: rest) fault := by
  cases hl : RawHeader.ofLine? (raw.spelling ++ more) with
  | none => exact ⟨_, .noHeader hl⟩
  | some other =>
      obtain ⟨hother, hspelling⟩ := (RawHeader.ofLine?_eq_some_iff _ _).1 hl
      obtain ⟨hline, hcount⟩ := RawHeader.eq_of_spelling_append hproper hother hspelling
      have hotherLong : other.IsOversized := by
        rwa [RawHeader.IsOversized, ← hline, ← hcount]
      obtain ⟨digits, hfails⟩ := exists_failsAt_of_isOversized i hother hotherLong rest
      exact ⟨_, hspelling ▸ hfails⟩

/-- **A text that comes to a numeral that is too long is not read, whatever follows it.** -/
theorem ReachesOversized.read_append_ne_ok {text : String} (h : ReachesOversized text)
    (more : String) (blocks : List Block) : read (text ++ more) ≠ .ok blocks := by
  obtain ⟨frames, raw, rest, hlines, hproper, hlong⟩ := h
  obtain ⟨tail, behind, hmore⟩ := exists_framedLines_append hlines more.toList
  obtain ⟨fault, hfails⟩ := exists_failsAt_of_isOversized_append
    (frames.flatMap Frame.lines).length hproper hlong tail behind
  have hread : read (text ++ more) = .error fault :=
    (read_eq_error_iff _ _).2 ⟨frames, _, by rw [String.toList_append, hmore], hfails⟩
  rw [hread]
  exact fun h => nomatch h

/-! ### Cuts -/

/-- A text that was cut off is read as first blocks, or fails with a fault of the framing. -/
theorem read_cut_cases {cut rest : String} {blocks : List Block}
    (h : read (cut ++ rest) = .ok blocks) :
    (∃ kept, read cut = .ok kept ∧ kept <+: blocks) ∨
      ∃ line detail, FailsWith cut (.explorer (.framing line detail)) := by
  cases hcut : read cut with
  | ok kept =>
      obtain ⟨more, -, rfl⟩ := (read_append_eq_ok_iff hcut rest blocks).1 h
      exact .inl ⟨kept, rfl, List.prefix_append kept more⟩
  | error fault =>
      exact .inr (exists_failsWith_framing hcut fun hlong => hlong.read_append_ne_ok rest blocks h)

/-- **A cut is refused, or leaves the first blocks.**  Of a text that is read, any first part is
read as first blocks of the text or fails with a fault of the framing; and for any first blocks of
the text there is a first part that is read as these. -/
theorem read_truncated {text : String} {blocks : List Block} (h : read text = .ok blocks) :
    (∀ cut : String, cut.toList <+: text.toList →
        (∃ kept, read cut = .ok kept ∧ kept <+: blocks) ∨
          ∃ line detail, FailsWith cut (.explorer (.framing line detail))) ∧
      ∀ kept, kept <+: blocks → ∃ cut : String, cut.toList <+: text.toList ∧ read cut = .ok kept := by
  constructor
  · rintro cut ⟨rest, hrest⟩
    have htext : text = cut ++ String.ofList rest := by
      rw [← String.toList_inj, String.toList_append, String.toList_ofList, hrest]
    exact read_cut_cases (htext ▸ h)
  · rintro kept ⟨more, rfl⟩
    obtain ⟨frames, htext, hframes⟩ := (read_eq_ok_iff _ _).1 h
    obtain ⟨front, back, rfl, hfront, -⟩ := List.map_eq_append_iff.1 hframes.symm
    refine ⟨String.ofList (front.flatMap Frame.text), ?_, ?_⟩
    · rw [htext, String.toList_ofList, List.flatMap_append]
      exact List.prefix_append _ _
    · rw [read_of_flatMap_text String.toList_ofList, hfront]

/-- Two blocks, of which the second one is cut inside of its arguments. -/
theorem read_truncated_inside_arguments :
    read "<4 1 f >\nx\n\n<9 0 g a>b>\n\n" =
        .ok [{ line := 4, lineCount := 1, name := "f", args := "", text := "x\n" },
          { line := 9, lineCount := 0, name := "g", args := "a>b", text := "" }] ∧
      "<4 1 f >\nx\n\n<9 0 g a>".toList <+: "<4 1 f >\nx\n\n<9 0 g a>b>\n\n".toList ∧
      ∃ line detail, FailsWith "<4 1 f >\nx\n\n<9 0 g a>" (.explorer (.framing line detail)) := by
  have hread : read "<4 1 f >\nx\n\n<9 0 g a>b>\n\n" =
      .ok [{ line := 4, lineCount := 1, name := "f", args := "", text := "x\n" },
        { line := 9, lineCount := 0, name := "g", args := "a>b", text := "" }] := by
    decide +kernel
  have hcut : "<4 1 f >\nx\n\n<9 0 g a>".toList <+:
      "<4 1 f >\nx\n\n<9 0 g a>b>\n\n".toList := by
    decide
  refine ⟨hread, hcut, ((read_truncated hread).1 _ hcut).resolve_left ?_⟩
  rintro ⟨kept, hkept, -⟩
  have hfails : read "<4 1 f >\nx\n\n<9 0 g a>" = .error (.noSeparator 5 ['g']) := by
    decide +kernel
  cases hkept.symm.trans hfails

end JitExplorer.Framing
