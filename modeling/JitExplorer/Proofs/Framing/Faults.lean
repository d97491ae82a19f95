/-
**Faults of a framed output.**

The reader stops at the first lines that do not begin with a frame, and the fault that it reports is
the fault of these lines alone: what it has taken off in front of them are frames, which only move
the numbers of the lines.  There are five ways in which lines fail to begin with a frame.  Three of
them are faults of the framing, with a line that lies in the text or directly behind it; the other
two are numerals that are too long to be read.

Main definitions:

* `Framing.FailsAt` — the ways in which lines fail to begin with a frame;
* `Framing.FailsWith` — the failure that reading a text ends in;
* `Framing.RawHeader.IsOversized` — a numeral of a header is too long.

Main results:

* `Framing.readLines_eq_error_iff` — the reader fails at the first lines that do not begin with a
  frame;
* `Framing.FailsAt.line_le` — the line of a fault of the framing lies in the text or behind it;
* `Framing.failsWith_valueError_iff` — which texts fail with another failure;
* `Framing.read_failsInFraming_iff` — **reading fails as a fault of the framing, unless a numeral is
  too long.**
-/

import JitExplorer.Proofs.Framing.Frame

set_option autoImplicit false

namespace JitExplorer.Framing

/-! ### Numerals that are too long -/

/-- A numeral of a header is too long to be read. -/
def RawHeader.IsOversized (raw : RawHeader) : Prop :=
  Text.maxDigits < raw.line.length ∨ Text.maxDigits < raw.lineCount.length

theorem readNumeral_of_length_le {digits : List Char} (h : digits.length ≤ Text.maxDigits) :
    readNumeral digits = .ok (Text.numeralValue digits) :=
  (readNumeral_eq_ok_iff _ _).2 ⟨h, rfl⟩

theorem readNumeral_of_lt_length {digits : List Char} (h : Text.maxDigits < digits.length) :
    readNumeral digits = .error (.oversized digits.length) := by
  rw [readNumeral, if_pos h]

theorem readNumeral_eq_error_iff (digits : List Char) (fault : ReadFault) :
    readNumeral digits = .error fault ↔
      Text.maxDigits < digits.length ∧ fault = .oversized digits.length := by
  by_cases h : Text.maxDigits < digits.length
  · simp [readNumeral_of_lt_length h, h, eq_comm]
  · simp [readNumeral_of_length_le (Nat.le_of_not_lt h), h]

/-! ### Lines that do not begin with a frame -/

/-- **The ways in which lines fail to begin with a frame,** with the fault of each.  The first of
the lines has the number `i + 1`. -/
inductive FailsAt (i : Nat) : List (List Char) → ReadFault → Prop where
  | noHeader {l : List Char} {ls : List (List Char)} (hl : RawHeader.ofLine? l = none) :
      FailsAt i (l :: ls) (.noHeader (i + 1) l)
  | longLine {l : List Char} {ls : List (List Char)} {raw : RawHeader}
      (hl : RawHeader.ofLine? l = some raw) (hline : Text.maxDigits < raw.line.length) :
      FailsAt i (l :: ls) (.oversized raw.line.length)
  | longCount {l : List Char} {ls : List (List Char)} {raw : RawHeader}
      (hl : RawHeader.ofLine? l = some raw) (hline : raw.line.length ≤ Text.maxDigits)
      (hcount : Text.maxDigits < raw.lineCount.length) :
      FailsAt i (l :: ls) (.oversized raw.lineCount.length)
  | endsEarly {l : List Char} {ls : List (List Char)} {raw : RawHeader} {n : Nat}
      (hl : RawHeader.ofLine? l = some raw) (hline : raw.line.length ≤ Text.maxDigits)
      (hcount : readNumeral raw.lineCount = .ok n) (hlen : ls.length < n) :
      FailsAt i (l :: ls) (.endsEarly (i + 1) raw.name n)
  | noSeparator {l : List Char} {ls : List (List Char)} {raw : RawHeader} {n : Nat}
      (hl : RawHeader.ofLine? l = some raw) (hline : raw.line.length ≤ Text.maxDigits)
      (hcount : readNumeral raw.lineCount = .ok n) (hlen : n ≤ ls.length)
      (hsep : ∀ rest, ls.drop n ≠ [] :: rest) :
      FailsAt i (l :: ls) (.noSeparator (i + n + 2) raw.name)

/-- The reader reports the fault of lines that do not begin with a frame. -/
theorem FailsAt.readLines_eq {i : Nat} {ls : List (List Char)} {fault : ReadFault}
    (h : FailsAt i ls fault) : readLines i ls = .error fault := by
  cases h with
  | noHeader hl => rw [readLines, hl]
  | longLine hl hline =>
      rw [readLines]
      simp only [hl, readNumeral_of_lt_length hline]
  | longCount hl hline hcount =>
      rw [readLines]
      simp only [hl, readNumeral_of_length_le hline, readNumeral_of_lt_length hcount]
  | endsEarly hl hline hcount hlen =>
      rw [readLines]
      simp only [hl, readNumeral_of_length_le hline, hcount, if_pos hlen]
  | noSeparator hl hline hcount hlen hsep =>
      rw [readLines]
      simp only [hl, readNumeral_of_length_le hline, hcount, if_neg (Nat.not_lt.2 hlen)]

/-- Whatever the reader fails on is some frames, and lines that do not begin with one. -/
theorem exists_failsAt_of_readLines {i : Nat} {ls : List (List Char)} {fault : ReadFault}
    (hls : ∀ l ∈ ls, '\n' ∉ l) (h : readLines i ls = .error fault) :
    ∃ (frames : List Frame) (rest : List (List Char)), ls = frames.flatMap Frame.lines ++ rest ∧
      FailsAt (i + (frames.flatMap Frame.lines).length) rest fault := by
  fun_induction readLines i ls generalizing fault with
  | case1 i => cases h
  | case2 i l ls hraw =>
      cases h
      exact ⟨[], _, rfl, .noHeader hraw⟩
  | case3 i l ls raw hraw fault' hline =>
      cases h
      obtain ⟨hlong, rfl⟩ := (readNumeral_eq_error_iff _ _).1 hline
      exact ⟨[], _, rfl, .longLine hraw hlong⟩
  | case4 i l ls raw hraw line fault' hcount hline =>
      cases h
      obtain ⟨hlong, rfl⟩ := (readNumeral_eq_error_iff _ _).1 hcount
      exact ⟨[], _, rfl, .longCount hraw ((readNumeral_eq_ok_iff _ _).1 hline).1 hlong⟩
  | case5 i l ls raw hraw line lineCount hcount hline hlen =>
      cases h
      exact ⟨[], _, rfl, .endsEarly hraw ((readNumeral_eq_ok_iff _ _).1 hline).1 hcount hlen⟩
  | case6 i l ls raw hraw line lineCount hcount hline hlen rest hdrop ih =>
      -- a complete frame: the fault is one of the lines behind it
      have hrest : readLines (i + lineCount + 2) rest = .error fault := by
        cases hr : readLines (i + lineCount + 2) rest with
        | error fault' => simpa [hr, Except.map] using h
        | ok tail => simp [hr, Except.map] at h
      obtain ⟨frame, hframe⟩ :=
        exists_frame_append_of_header hls hraw hline hcount (Nat.le_of_not_lt hlen) hdrop
      obtain ⟨frames, behind, hbehind, hfails⟩ :=
        ih (fun m hm => hls m (by rw [hframe]; simp [hm])) hrest
      have hlength : frame.lines.length = lineCount + 2 := by
        have hwhole := congrArg List.length hframe
        have hback := congrArg List.length hdrop
        simp only [List.length_append, List.length_cons, List.length_drop] at hwhole hback
        omega
      refine ⟨frame :: frames, behind, ?_, ?_⟩
      · rw [hframe, hbehind, List.flatMap_cons, List.append_assoc]
      · rw [List.flatMap_cons, List.length_append, hlength]
        rwa [show i + (lineCount + 2 + (frames.flatMap Frame.lines).length) =
          i + lineCount + 2 + (frames.flatMap Frame.lines).length by omega]
  | case7 i l ls raw hraw line lineCount hcount hline hlen hsep =>
      cases h
      exact ⟨[], _, rfl, .noSeparator hraw ((readNumeral_eq_ok_iff _ _).1 hline).1 hcount
        (Nat.le_of_not_lt hlen) hsep⟩

/-- **The reader fails at the first lines that do not begin with a frame.** -/
theorem readLines_eq_error_iff {i : Nat} {ls : List (List Char)} (hls : ∀ l ∈ ls, '\n' ∉ l)
    (fault : ReadFault) :
    readLines i ls = .error fault ↔
      ∃ (frames : List Frame) (rest : List (List Char)), ls = frames.flatMap Frame.lines ++ rest ∧
        FailsAt (i + (frames.flatMap Frame.lines).length) rest fault := by
  refine ⟨exists_failsAt_of_readLines hls, ?_⟩
  rintro ⟨frames, rest, rfl, hfails⟩
  rw [readLines_frames_append, hfails.readLines_eq]
  rfl

/-- A text is not read exactly if some frames are followed by lines that do not begin with one. -/
theorem read_eq_error_iff (text : String) (fault : ReadFault) :
    read text = .error fault ↔
      ∃ (frames : List Frame) (rest : List (List Char)),
        framedLines text.toList = frames.flatMap Frame.lines ++ rest ∧
          FailsAt (frames.flatMap Frame.lines).length rest fault := by
  rw [read, readLines_eq_error_iff fun _ => newline_notMem_of_mem_framedLines]
  simp only [Nat.zero_add]

/-! ### Failures of reading -/

/-- Reading a text ends in a failure. -/
def FailsWith (text : String) (failure : Failure) : Prop :=
  ∃ fault, read text = .error fault ∧ fault.toFailure = failure

theorem failsWith_iff_of_error {text : String} {fault : ReadFault} (h : read text = .error fault)
    (failure : Failure) : FailsWith text failure ↔ fault.toFailure = failure := by
  simp [FailsWith, h]

theorem not_failsWith_of_ok {text : String} {blocks : List Block} (h : read text = .ok blocks)
    (failure : Failure) : ¬ FailsWith text failure := by
  simp [FailsWith, h]

/-- The line of a fault of the framing. -/
def ReadFault.line? : ReadFault → Option Nat
  | .noHeader line _ => some line
  | .endsEarly line _ _ => some line
  | .noSeparator line _ => some line
  | .oversized _ => none

theorem ReadFault.toFailure_eq_framing_iff (fault : ReadFault) (line : Int) (detail : String) :
    fault.toFailure = .explorer (.framing line detail) ↔
      ∃ n, fault.line? = some n ∧ line = n ∧ detail = fault.detail := by
  cases fault <;> simp [toFailure, line?, Failure.ordinary, eq_comm]

/-- The line of a fault of the framing is one of the lines, or the one behind them. -/
theorem FailsAt.line_le {i n : Nat} {ls : List (List Char)} {fault : ReadFault}
    (h : FailsAt i ls fault) (hline : fault.line? = some n) : i + 1 ≤ n ∧ n ≤ i + ls.length + 1 := by
  cases h with
  | noHeader | endsEarly =>
      simp only [ReadFault.line?, Option.some.injEq] at hline
      rw [List.length_cons]
      omega
  | noSeparator hl hcountLine hcount hlen =>
      simp only [ReadFault.line?, Option.some.injEq] at hline
      rw [List.length_cons]
      omega
  | longLine | longCount => cases hline

/-- A header with a numeral that is too long is read as such, whatever follows it. -/
theorem exists_failsAt_of_isOversized (i : Nat) {raw : RawHeader} (hproper : raw.IsProper)
    (hlong : raw.IsOversized) (rest : List (List Char)) :
    ∃ digits, FailsAt i (raw.spelling :: rest) (.oversized digits) := by
  have hl := (RawHeader.ofLine?_eq_some_iff raw.spelling raw).2 ⟨hproper, rfl⟩
  by_cases hline : Text.maxDigits < raw.line.length
  · exact ⟨_, .longLine hl hline⟩
  · exact ⟨_, .longCount hl (Nat.le_of_not_lt hline) (hlong.resolve_left hline)⟩

/-- Lines fail with a numeral that is too long only if they begin with a header that has one. -/
theorem FailsAt.exists_isOversized {i digits : Nat} {ls : List (List Char)}
    (h : FailsAt i ls (.oversized digits)) :
    ∃ (raw : RawHeader) (rest : List (List Char)),
      raw.IsProper ∧ raw.IsOversized ∧ ls = raw.spelling :: rest := by
  cases h with
  | longLine hl hline =>
      obtain ⟨hproper, rfl⟩ := (RawHeader.ofLine?_eq_some_iff _ _).1 hl
      exact ⟨_, _, hproper, .inl hline, rfl⟩
  | longCount hl hline hcount =>
      obtain ⟨hproper, rfl⟩ := (RawHeader.ofLine?_eq_some_iff _ _).1 hl
      exact ⟨_, _, hproper, .inr hcount, rfl⟩

/-- Behind some frames at the front of a text stands a header with a numeral that is too long. -/
def ReachesOversized (text : String) : Prop :=
  ∃ (frames : List Frame) (raw : RawHeader) (rest : List (List Char)),
    framedLines text.toList = frames.flatMap Frame.lines ++ raw.spelling :: rest ∧
      raw.IsProper ∧ raw.IsOversized

theorem read_eq_oversized_iff (text : String) :
    (∃ digits, read text = .error (.oversized digits)) ↔ ReachesOversized text := by
  constructor
  · rintro ⟨digits, h⟩
    obtain ⟨frames, _, hlines, hfails⟩ := (read_eq_error_iff _ _).1 h
    obtain ⟨raw, rest, hproper, hlong, rfl⟩ := hfails.exists_isOversized
    exact ⟨frames, raw, rest, hlines, hproper, hlong⟩
  · rintro ⟨frames, raw, rest, hlines, hproper, hlong⟩
    obtain ⟨digits, hfails⟩ := exists_failsAt_of_isOversized _ hproper hlong rest
    exact ⟨digits, (read_eq_error_iff _ _).2 ⟨frames, _, hlines, hfails⟩⟩

/-- Reading fails with another failure than one of the framing exactly if it comes to a numeral that
is too long. -/
theorem failsWith_valueError_iff (text : String) :
    (∃ detail, FailsWith text (.ordinary "ValueError" detail)) ↔ ReachesOversized text := by
  rw [← read_eq_oversized_iff]
  constructor
  · rintro ⟨detail, fault, h, hfault⟩
    cases fault with
    | oversized digits => exact ⟨digits, h⟩
    | noHeader | endsEarly | noSeparator => cases hfault
  · rintro ⟨digits, h⟩
    exact ⟨_, _, h, rfl⟩

/-- Any other fault is one of the framing. -/
theorem exists_failsWith_framing {text : String} {fault : ReadFault} (h : read text = .error fault)
    (hlong : ¬ ReachesOversized text) :
    ∃ line detail, FailsWith text (.explorer (.framing line detail)) := by
  obtain ⟨line, hline⟩ : ∃ line, fault.line? = some line := by
    cases fault with
    | oversized digits => exact absurd ((read_eq_oversized_iff text).1 ⟨digits, h⟩) hlong
    | noHeader | endsEarly | noSeparator => exact ⟨_, rfl⟩
  refine ⟨line, fault.detail, (failsWith_iff_of_error h _).2 ?_⟩
  exact (fault.toFailure_eq_framing_iff _ _).2 ⟨line, hline, rfl, rfl⟩

/-- A fault of the framing names a line of the text, or the one behind the text. -/
theorem line_of_failsWith {text : String} {line : Int} {detail : String}
    (h : FailsWith text (.explorer (.framing line detail))) :
    1 ≤ line ∧ line ≤ (framedLines text.toList).length + 1 := by
  obtain ⟨fault, hread, hfault⟩ := h
  obtain ⟨n, hn, rfl, -⟩ := (fault.toFailure_eq_framing_iff _ _).1 hfault
  obtain ⟨frames, rest, hlines, hfails⟩ := (read_eq_error_iff _ _).1 hread
  have hbounds := hfails.line_le hn
  have hlength : (framedLines text.toList).length =
      (frames.flatMap Frame.lines).length + rest.length := by
    rw [hlines, List.length_append]
  omega

/-- **Reading fails as a fault of the framing, unless a numeral is too long.**  A text is read, or
fails with a fault of the framing whose line is one of its lines or the one behind them, unless some
frames are followed by a header with a numeral that is too long; exactly then reading fails with a
failure that is not one of the framing. -/
theorem read_failsInFraming_iff (text : String) :
    (((∃ blocks, read text = .ok blocks) ∨
        ∃ line detail, FailsWith text (.explorer (.framing line detail)) ∧
          1 ≤ line ∧ line ≤ (framedLines text.toList).length + 1) ↔ ¬ ReachesOversized text) ∧
      ((∃ detail, FailsWith text (.ordinary "ValueError" detail)) ↔ ReachesOversized text) := by
  refine ⟨⟨?_, fun hlong => ?_⟩, failsWith_valueError_iff text⟩
  · rw [← read_eq_oversized_iff]
    rintro (⟨blocks, h⟩ | ⟨line, detail, hfails, -⟩) ⟨digits, hlong⟩
    · cases h.symm.trans hlong
    · cases (failsWith_iff_of_error hlong _).1 hfails
  · cases h : read text with
    | ok blocks => exact .inl ⟨blocks, rfl⟩
    | error fault =>
        obtain ⟨line, detail, hfails⟩ := exists_failsWith_framing h hlong
        exact .inr ⟨line, detail, hfails, line_of_failsWith hfails⟩

/-- A header with a line number of one digit too many. -/
def longHeader : RawHeader where
  line := List.replicate (Text.maxDigits + 1) '1'
  lineCount := ['0']
  name := ['f']
  args := []

/-- A line number of one digit too many ends reading with a failure that is not one of the
framing. -/
theorem exists_failsWith_valueError :
    ∃ text : String,
      FailsWith text (.ordinary "ValueError"
        ("Exceeds the limit (4300 digits) for integer string conversion: value has 4301 digits; " ++
          "use sys.set_int_max_str_digits() to increase the limit")) ∧
      ¬ ((∃ blocks, read text = .ok blocks) ∨
        ∃ line detail, FailsWith text (.explorer (.framing line detail))) := by
  have hproper : longHeader.IsProper := {
    line := ⟨List.cons_ne_nil _ _, fun c hc => List.eq_of_mem_replicate hc ▸ by decide⟩
    lineCount := ⟨by decide, List.forall_mem_singleton.2 (by decide)⟩
    name := ⟨by decide, List.forall_mem_singleton.2 (by decide)⟩ }
  have hspelling : '\n' ∉ longHeader.spelling := by
    have hline : '\n' ∉ longHeader.line := fun h =>
      absurd (List.eq_of_mem_replicate h) (by decide)
    simp only [RawHeader.spelling, List.mem_cons, List.mem_append, hline]
    decide
  have hlength : longHeader.line.length = Text.maxDigits + 1 := List.length_replicate
  have hread : read (String.ofList (Text.unpieces [longHeader.spelling])) =
      .error (.oversized (Text.maxDigits + 1)) := by
    rw [read, String.toList_ofList, framedLines_unpieces _ (List.forall_mem_singleton.2 hspelling),
      ← hlength]
    have hl := (RawHeader.ofLine?_eq_some_iff longHeader.spelling longHeader).2 ⟨hproper, rfl⟩
    exact (FailsAt.longLine hl (hlength ▸ Nat.lt_succ_self Text.maxDigits)).readLines_eq
  refine ⟨_, (failsWith_iff_of_error hread _).2 (by decide +kernel), ?_⟩
  rintro (⟨blocks, h⟩ | ⟨line, detail, hfails⟩)
  · cases h.symm.trans hread
  · cases (failsWith_iff_of_error hread _).1 hfails

end JitExplorer.Framing
