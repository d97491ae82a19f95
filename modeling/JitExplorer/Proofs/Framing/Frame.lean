/-
**Frames.**

A frame is one unit of a framed output as it is written: a header line with its numerals as they are
spelled, the lines that the second numeral counts, and an empty line.  The spelling of a numeral is
part of a frame, so that a text is made of frames in one way only; the block that a frame stands for
forgets it.

Main definitions:

* `Framing.Numeral` — digits that are read as a number;
* `Framing.Frame`, `Framing.Frame.text`, `Framing.Frame.block` — a frame, the text that it is, and
  the block that it stands for.

Main results:

* `Framing.readLines_frames_append` — the reader takes frames off the front of a text;
* `Framing.exists_frames_of_readLines` — whatever the reader accepts is made of frames;
* `Framing.read_eq_ok_iff` — **the texts that are read are the texts of frames**;
* `Framing.frames_eq_of_flatMap_text` — a text is made of frames in one way only.
-/

import JitExplorer.Proofs.Framing.HeaderLine

set_option autoImplicit false

namespace JitExplorer.Framing

/-! ### Numerals -/

/-- Digits that are read as a number. -/
@[ext] structure Numeral where
  digits : List Char
  ne_nil : digits ≠ []
  isDigit_of_mem : ∀ c ∈ digits, Text.isDigit c = true
  length_le : digits.length ≤ Text.maxDigits

/-- The number that a numeral writes. -/
def Numeral.value (numeral : Numeral) : Nat :=
  Text.numeralValue numeral.digits

theorem readNumeral_eq_ok_iff (digits : List Char) (n : Nat) :
    readNumeral digits = .ok n ↔ digits.length ≤ Text.maxDigits ∧ Text.numeralValue digits = n := by
  unfold readNumeral
  split
  · rename_i h
    simp [Nat.not_le.2 h]
  · rename_i h
    simp [Nat.le_of_not_lt h]

theorem Numeral.readNumeral_digits (numeral : Numeral) :
    readNumeral numeral.digits = .ok numeral.value :=
  (readNumeral_eq_ok_iff _ _).2 ⟨numeral.length_le, rfl⟩

/-- The canonical numeral of a number that is not too long. -/
def Numeral.ofNat (n : Nat) (h : (Text.natDigits n).length ≤ Text.maxDigits) : Numeral where
  digits := Text.natDigits n
  ne_nil := Text.natDigits_ne_nil n
  isDigit_of_mem := fun _ => Text.isDigit_of_mem_natDigits
  length_le := h

@[simp] theorem Numeral.value_ofNat (n : Nat) (h : (Text.natDigits n).length ≤ Text.maxDigits) :
    (Numeral.ofNat n h).value = n :=
  Text.numeralValue_natDigits n

/-- The number of a numeral can be written canonically. -/
theorem Numeral.length_natDigits_value_le (numeral : Numeral) :
    (Text.natDigits numeral.value).length ≤ Text.maxDigits :=
  Nat.le_trans (Text.length_natDigits_numeralValue_le numeral.ne_nil) numeral.length_le

/-! ### Frames -/

/-- One unit of a framed output: the fields of its header as they are written, and its lines. -/
@[ext] structure Frame where
  line : Numeral
  lineCount : Numeral
  name : List Char
  args : List Char
  body : List (List Char)
  name_ne_nil : name ≠ []
  name_not_blank : ∀ c ∈ name, Text.isBlank c = false
  args_no_newline : '\n' ∉ args
  body_no_newline : ∀ l ∈ body, '\n' ∉ l
  length_body : body.length = lineCount.value

namespace Frame

/-- The fields of the header of a frame. -/
def raw (frame : Frame) : RawHeader where
  line := frame.line.digits
  lineCount := frame.lineCount.digits
  name := frame.name
  args := frame.args

/-- The lines of a frame: its header, its body, and an empty line. -/
def lines (frame : Frame) : List (List Char) :=
  frame.raw.spelling :: (frame.body ++ [[]])

/-- **A frame as it is written:** its header, its body with every line ended by a newline, and an
empty line. -/
def text (frame : Frame) : List Char :=
  frame.raw.spelling ++ '\n' :: (Text.unpieces frame.body ++ ['\n'])

/-- The block that a frame stands for. -/
def block (frame : Frame) : Block where
  line := frame.line.value
  lineCount := frame.lineCount.value
  name := String.ofList frame.name
  args := String.ofList frame.args
  text := String.ofList (Text.unpieces frame.body)

theorem isProper_raw (frame : Frame) : frame.raw.IsProper where
  line := ⟨frame.line.ne_nil, frame.line.isDigit_of_mem⟩
  lineCount := ⟨frame.lineCount.ne_nil, frame.lineCount.isDigit_of_mem⟩
  name := ⟨frame.name_ne_nil, fun c hc => by simp [frame.name_not_blank c hc]⟩

theorem length_lines (frame : Frame) : frame.lines.length = frame.lineCount.value + 2 := by
  simp [lines, frame.length_body]

theorem unpieces_lines (frame : Frame) : Text.unpieces frame.lines = frame.text := by
  simp [lines, text, Text.unpieces]

/-- The lines of frames, written out, are their texts. -/
theorem unpieces_flatMap_lines (frames : List Frame) :
    Text.unpieces (frames.flatMap lines) = frames.flatMap text := by
  induction frames with
  | nil => rfl
  | cons frame frames ih => simp [ih, unpieces_lines]

theorem newline_notMem_digits (numeral : Numeral) : '\n' ∉ numeral.digits := by
  intro h
  have := numeral.isDigit_of_mem _ h
  revert this
  decide

theorem newline_notMem_name (frame : Frame) : '\n' ∉ frame.name := by
  intro h
  have := frame.name_not_blank _ h
  revert this
  decide

/-- No line of a frame holds a newline. -/
theorem newline_notMem_of_mem_lines {frame : Frame} {l : List Char} (h : l ∈ frame.lines) :
    '\n' ∉ l := by
  rcases List.mem_cons.1 h with rfl | h
  · have hl := newline_notMem_digits frame.line
    have hc := newline_notMem_digits frame.lineCount
    have hn := frame.newline_notMem_name
    have ha := frame.args_no_newline
    simp [RawHeader.spelling, raw, hl, hc, hn, ha]
  · rcases List.mem_append.1 h with h | h
    · exact frame.body_no_newline l h
    · rw [List.mem_singleton.1 h]
      simp

/-- No line of some frames holds a newline. -/
theorem newline_notMem_of_mem_flatMap_lines {frames : List Frame} {l : List Char}
    (h : l ∈ frames.flatMap lines) : '\n' ∉ l := by
  obtain ⟨frame, -, hframe⟩ := List.mem_flatMap.1 h
  exact newline_notMem_of_mem_lines hframe

/-- Frames end with an empty line. -/
theorem getLast?_flatMap_lines {frames : List Frame} (h : frames ≠ []) :
    (frames.flatMap lines).getLast? = some [] := by
  obtain ⟨front, last, rfl⟩ := (List.eq_nil_or_concat frames).resolve_left h
  simp [lines, List.getLast?_append, List.getLast?_cons]

end Frame

/-! ### What the reader accepts -/

/-- The reader takes a frame off the front of the lines. -/
theorem readLines_frame_append (i : Nat) (frame : Frame) (rest : List (List Char)) :
    readLines i (frame.lines ++ rest) =
      (readLines (i + frame.lineCount.value + 2) rest).map (frame.block :: ·) := by
  have hlines : frame.lines ++ rest = frame.raw.spelling :: (frame.body ++ [] :: rest) := by
    simp [Frame.lines]
  have hheader := (RawHeader.ofLine?_eq_some_iff _ _).2 ⟨frame.isProper_raw, rfl⟩
  have hline := frame.line.readNumeral_digits
  have hcount := frame.lineCount.readNumeral_digits
  have hdrop : (frame.body ++ [] :: rest).drop frame.lineCount.value = [] :: rest := by
    rw [← frame.length_body, List.drop_left]
  have htake : (frame.body ++ [] :: rest).take frame.lineCount.value = frame.body := by
    rw [← frame.length_body, List.take_left]
  have hlen : ¬ (frame.body ++ [] :: rest).length < frame.lineCount.value := by
    rw [← frame.length_body, List.length_append]
    omega
  rw [hlines, readLines]
  simp only [hheader]
  rw [show readNumeral frame.raw.line = _ from hline,
    show readNumeral frame.raw.lineCount = _ from hcount]
  simp only [if_neg hlen]
  split
  · rename_i rest' h
    have hrest : rest' = rest := by simpa [hdrop] using h.symm
    subst hrest
    rw [htake]
    rfl
  · rename_i h
    exact absurd hdrop (h rest)

/-- The reader takes frames off the front of the lines. -/
theorem readLines_frames_append (i : Nat) (frames : List Frame) (rest : List (List Char)) :
    readLines i (frames.flatMap Frame.lines ++ rest) =
      (readLines (i + (frames.flatMap Frame.lines).length) rest).map
        (frames.map Frame.block ++ ·) := by
  induction frames generalizing i with
  | nil =>
      cases h : readLines i rest <;> simp [h, Except.map]
  | cons frame frames ih =>
      have hlen : i + frame.lineCount.value + 2 + (frames.flatMap Frame.lines).length =
          i + ((frame :: frames).flatMap Frame.lines).length := by
        simp only [List.flatMap_cons, List.length_append, Frame.length_lines]
        omega
      rw [List.flatMap_cons, List.append_assoc, readLines_frame_append, ih, hlen,
        ← List.flatMap_cons]
      cases readLines (i + ((frame :: frames).flatMap Frame.lines).length) rest <;>
        simp [Except.map]

/-- The fields of a header that is read, and the lines that it counts, make up a frame. -/
theorem exists_frame_of_header {l : List Char} {raw : RawHeader} {line lineCount : Nat}
    {body : List (List Char)} (hl : '\n' ∉ l) (hraw : RawHeader.ofLine? l = some raw)
    (hline : readNumeral raw.line = .ok line) (hcount : readNumeral raw.lineCount = .ok lineCount)
    (hbody : ∀ m ∈ body, '\n' ∉ m) (hlen : body.length = lineCount) :
    ∃ frame : Frame, frame.lines = l :: (body ++ [[]]) := by
  obtain ⟨⟨hline', hcount', hname⟩, rfl⟩ := (RawHeader.ofLine?_eq_some_iff l raw).1 hraw
  obtain ⟨hlineLen, -⟩ := (readNumeral_eq_ok_iff _ _).1 hline
  obtain ⟨hcountLen, rfl⟩ := (readNumeral_eq_ok_iff _ _).1 hcount
  have hargs : '\n' ∉ raw.args := fun h => hl (by simp [RawHeader.spelling, h])
  exact ⟨{
    line := ⟨raw.line, hline'.1, hline'.2, hlineLen⟩
    lineCount := ⟨raw.lineCount, hcount'.1, hcount'.2, hcountLen⟩
    name := raw.name
    args := raw.args
    body
    name_ne_nil := hname.1
    name_not_blank := fun c hc => by simpa using hname.2 c hc
    args_no_newline := hargs
    body_no_newline := hbody
    length_body := hlen }, rfl⟩

/-- A header that is read, with the lines that it counts and an empty line behind it, is a frame in
front of what follows. -/
theorem exists_frame_append_of_header {l : List Char} {ls rest : List (List Char)} {raw : RawHeader}
    {line lineCount : Nat} (hls : ∀ m ∈ l :: ls, '\n' ∉ m) (hraw : RawHeader.ofLine? l = some raw)
    (hline : readNumeral raw.line = .ok line) (hcount : readNumeral raw.lineCount = .ok lineCount)
    (hlen : lineCount ≤ ls.length) (hdrop : ls.drop lineCount = [] :: rest) :
    ∃ frame : Frame, l :: ls = frame.lines ++ rest := by
  obtain ⟨hl, hmem⟩ := List.forall_mem_cons.1 hls
  obtain ⟨frame, hframe⟩ := exists_frame_of_header hl hraw hline hcount
    (fun m hm => hmem m (List.mem_of_mem_take hm)) (List.length_take_of_le hlen)
  refine ⟨frame, ?_⟩
  rw [hframe, List.cons_append, List.append_assoc, List.singleton_append, ← hdrop,
    List.take_append_drop]

/-- **Whatever the reader accepts is made of frames.** -/
theorem exists_frames_of_readLines {i : Nat} {ls : List (List Char)} {blocks : List Block}
    (hls : ∀ l ∈ ls, '\n' ∉ l) (h : readLines i ls = .ok blocks) :
    ∃ frames : List Frame, ls = frames.flatMap Frame.lines := by
  -- every case but two is a fault: the end of the lines, and a complete frame in front of the rest
  fun_induction readLines i ls generalizing blocks with
  | case1 i => exact ⟨[], rfl⟩
  | case6 i l ls raw hraw line lineCount hcount hline hlen rest hdrop ih =>
      obtain ⟨tail, htail⟩ : ∃ tail, readLines (i + lineCount + 2) rest = .ok tail := by
        cases hr : readLines (i + lineCount + 2) rest with
        | error fault => simp [hr, Except.map] at h
        | ok tail => exact ⟨tail, rfl⟩
      obtain ⟨frame, hframe⟩ :=
        exists_frame_append_of_header hls hraw hline hcount (Nat.le_of_not_lt hlen) hdrop
      obtain ⟨frames, rfl⟩ := ih (fun m hm => hls m (by rw [hframe]; simp [hm])) htail
      exact ⟨frame :: frames, hframe⟩
  | _ => cases h

/-! ### Texts of frames -/

theorem newline_notMem_of_mem_framedLines {s l : List Char} (h : l ∈ framedLines s) : '\n' ∉ l := by
  unfold framedLines at h
  dsimp only at h
  split at h
  · exact Text.newline_notMem_of_mem_pieces (List.dropLast_subset _ h)
  · exact Text.newline_notMem_of_mem_pieces h

/-- The lines of a text that was written as lines. -/
theorem framedLines_unpieces (ls : List (List Char)) (h : ∀ l ∈ ls, '\n' ∉ l) :
    framedLines (Text.unpieces ls) = ls := by
  have hpieces := Text.pieces_unpieces_append ls [] h
  rw [List.append_nil] at hpieces
  simp [framedLines, hpieces, Text.pieces]

/-- A text whose last line is empty, or that has no lines, was written as lines. -/
theorem eq_unpieces_of_framedLines {s : List Char} {ls : List (List Char)}
    (hlast : ls ≠ [] → ls.getLast? = some []) (h : framedLines s = ls) : s = Text.unpieces ls := by
  obtain ⟨front, last, hpieces, hs⟩ := Text.exists_unpieces_append s
  by_cases hempty : last = []
  · subst hempty
    simp only [framedLines, hpieces, List.getLast?_append, List.getLast?_singleton,
      Option.some_or, if_true, List.dropLast_concat] at h
    rw [hs, h, List.append_nil]
  · have hfront : framedLines s = front ++ [last] := by
      simp [framedLines, hpieces, hempty]
    rw [hfront] at h
    have hnil := hlast (by simp [← h])
    simp only [← h, List.getLast?_append, List.getLast?_singleton, Option.some_or,
      Option.some.injEq] at hnil
    exact absurd hnil hempty

/-- The texts of frames have the lines of the frames, and no other text has. -/
theorem framedLines_eq_flatMap_lines_iff (s : List Char) (frames : List Frame) :
    framedLines s = frames.flatMap Frame.lines ↔ s = frames.flatMap Frame.text := by
  rw [← Frame.unpieces_flatMap_lines]
  constructor
  · refine eq_unpieces_of_framedLines fun hne => Frame.getLast?_flatMap_lines ?_
    rintro rfl
    exact hne rfl
  · rintro rfl
    exact framedLines_unpieces _ fun l hl => Frame.newline_notMem_of_mem_flatMap_lines hl

/-- The text of frames is read as their blocks. -/
theorem read_of_flatMap_text {text : String} {frames : List Frame}
    (h : text.toList = frames.flatMap Frame.text) : read text = .ok (frames.map Frame.block) := by
  rw [read, (framedLines_eq_flatMap_lines_iff _ _).2 h]
  simpa [readLines_nil, Except.map] using readLines_frames_append 0 frames []

/-- **The texts that are read are the texts of frames.** -/
theorem read_eq_ok_iff (text : String) (blocks : List Block) :
    read text = .ok blocks ↔
      ∃ frames : List Frame, text.toList = frames.flatMap Frame.text ∧
        blocks = frames.map Frame.block := by
  constructor
  · intro h
    obtain ⟨frames, hframes⟩ :=
      exists_frames_of_readLines (fun l hl => newline_notMem_of_mem_framedLines hl) h
    have htext := (framedLines_eq_flatMap_lines_iff _ frames).1 hframes
    exact ⟨frames, htext, Except.ok.inj (h.symm.trans (read_of_flatMap_text htext))⟩
  · rintro ⟨frames, htext, rfl⟩
    exact read_of_flatMap_text htext

/-! ### Frames are determined by their text -/

/-- A frame at the front of some lines is determined by them. -/
theorem Frame.eq_of_lines_append {frame other : Frame} {rest otherRest : List (List Char)}
    (h : frame.lines ++ rest = other.lines ++ otherRest) : frame = other ∧ rest = otherRest := by
  simp only [Frame.lines, List.cons_append, List.append_assoc, List.cons.injEq] at h
  obtain ⟨hspelling, hlines⟩ := h
  have hraw := RawHeader.eq_of_spelling_eq frame.isProper_raw other.isProper_raw hspelling
  simp only [Frame.raw, RawHeader.mk.injEq] at hraw
  obtain ⟨hline, hcount, hname, hargs⟩ := hraw
  have hlen : frame.body.length = other.body.length := by
    rw [frame.length_body, other.length_body, Numeral.value, Numeral.value, hcount]
  obtain ⟨hbody, hrest⟩ := List.append_inj hlines hlen
  exact ⟨Frame.ext (Numeral.ext hline) (Numeral.ext hcount) hname hargs hbody,
    (List.cons.inj hrest).2⟩

/-- **A text is made of frames in one way only.** -/
theorem frames_eq_of_flatMap_text {frames others : List Frame}
    (h : frames.flatMap Frame.text = others.flatMap Frame.text) : frames = others := by
  have hlines : frames.flatMap Frame.lines = others.flatMap Frame.lines :=
    ((framedLines_eq_flatMap_lines_iff _ frames).2 rfl).symm.trans
      ((framedLines_eq_flatMap_lines_iff _ others).2 h)
  clear h
  induction frames generalizing others with
  | nil =>
      cases others with
      | nil => rfl
      | cons other others => simp [Frame.lines] at hlines
  | cons frame frames ih =>
      cases others with
      | nil => simp [Frame.lines] at hlines
      | cons other others =>
          rw [List.flatMap_cons, List.flatMap_cons] at hlines
          obtain ⟨rfl, hrest⟩ := Frame.eq_of_lines_append hlines
          rw [ih hrest]

end JitExplorer.Framing
