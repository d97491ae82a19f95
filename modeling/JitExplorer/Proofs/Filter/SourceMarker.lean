/-
**Which listings lose their source markers and nothing else.**

Lines end at newlines for the framing and for everybody who counts lines, and a marker line is to be
dropped as it stands between two newlines.  The filter reads display lines instead, which end at ten
characters.  So a line that is to remain and holds another line break comes apart, and a marker line
that holds one among its blanks may leave a blank line behind.  A listing loses its marker lines and
nothing else exactly if neither happens, save that a single empty line makes no difference where no
line remains.

Main definitions:

* `Marker.IsMarker` — the lines that are source markers;
* `Marker.remaining`, `Marker.unmarked` — the lines that are to remain of a text, and their text;
* `Marker.kept` — the lines that the filter keeps;
* `Marker.splitOff` — the lines that marker lines leave behind.

Main results:

* `Marker.isMarker_eq_true_iff` — the filter recognizes the marker lines;
* `Marker.kept_perm` — unless a remaining line comes apart, the lines that are kept are those that
  are to remain and those that are split off;
* `Marker.textOf_eq_iff` — when lines have the same text;
* `Marker.lineCount_textOf` — how many lines a text of lines has;
* `Marker.strip_eq_unmarked_iff` — **the texts that lose their marker lines and nothing else.**
-/

import JitExplorer.Filter.Marker
import JitExplorer.Proofs.Text.EndedLines

set_option autoImplicit false

namespace JitExplorer.Marker

open Metadata (IsUnbroken IsNumber textOf textOf_eq_unpieces)
open Text (endedLines withoutNewline)

/-! ### Marker lines -/

/-- What a source marker begins with. -/
def lineMark : List Char := "# --- LINE ".toList

/-- What a source marker ends with. -/
def endMark : List Char := " ---".toList

/-- **The line is a source marker,** with blanks in front of it and behind it. -/
def IsMarker (l : List Char) : Prop :=
  ∃ front digits back, (∀ c ∈ front, Text.isBlank c = true) ∧ IsNumber digits ∧
    (∀ c ∈ back, Text.isBlank c = true) ∧ l = front ++ (lineMark ++ (digits ++ (endMark ++ back)))

theorem trimLeft_lineMark_append (s : List Char) :
    Text.trimLeft (lineMark ++ s) = lineMark ++ s := by
  have hmark : lineMark = '#' :: lineMark.tail := by decide
  rw [Text.trimLeft, hmark, List.cons_append, List.dropWhile_cons_of_neg (by decide)]

theorem startsNoDigit_endMark_append (s : List Char) : Metadata.StartsNoDigit (endMark ++ s) := by
  have hmark : endMark = ' ' :: endMark.tail := by decide
  rw [hmark]
  intro c hc
  obtain rfl : ' ' = c := Option.some.inj hc
  decide

theorem isMarker_eq_elim (l : List Char) :
    isMarker l = (Text.dropPrefix? lineMark (Text.trimLeft l)).elim false fun s =>
      !(s.takeWhile Text.isDigit).isEmpty &&
        (Text.dropPrefix? endMark (s.dropWhile Text.isDigit)).elim false fun back =>
          back.all Text.isBlank := by
  unfold isMarker lineMark endMark
  generalize Text.dropPrefix? "# --- LINE ".toList (Text.trimLeft l) = front
  cases front with
  | none => rfl
  | some s =>
      dsimp only [Option.elim]
      generalize Text.dropPrefix? " ---".toList (s.dropWhile Text.isDigit) = back
      cases back <;> rfl

/-- What the filter looks at, in the order in which it does. -/
theorem isMarker_eq_true_iff_exists (l : List Char) :
    isMarker l = true ↔ ∃ s back, Text.trimLeft l = lineMark ++ s ∧
      IsNumber (s.takeWhile Text.isDigit) ∧ s.dropWhile Text.isDigit = endMark ++ back ∧
        ∀ c ∈ back, Text.isBlank c = true := by
  simp only [← Text.dropPrefix?_eq_some_iff, ← Metadata.isEmpty_takeWhile_iff, isMarker_eq_elim]
  cases Text.dropPrefix? lineMark (Text.trimLeft l) with
  | none => simp
  | some s =>
      cases hback : Text.dropPrefix? endMark (s.dropWhile Text.isDigit) with
      | none => simp [hback]
      | some back => simp [hback]

/-- **The filter recognizes the marker lines.** -/
theorem isMarker_eq_true_iff (l : List Char) : isMarker l = true ↔ IsMarker l := by
  rw [isMarker_eq_true_iff_exists]
  constructor
  · rintro ⟨s, back, htrim, hdigits, hend, hback⟩
    refine ⟨l.takeWhile Text.isBlank, _, back, fun c => List.mem_takeWhile_imp, hdigits, hback, ?_⟩
    rw [← hend, List.takeWhile_append_dropWhile, ← htrim, Text.trimLeft,
      List.takeWhile_append_dropWhile]
  · rintro ⟨front, digits, back, hfront, hdigits, hback, rfl⟩
    have hspace := startsNoDigit_endMark_append back
    refine ⟨digits ++ (endMark ++ back), back, ?_, ?_, ?_, hback⟩
    · rw [Text.trimLeft, List.dropWhile_append_of_pos hfront]
      exact trimLeft_lineMark_append _
    · rwa [Metadata.takeWhile_number_append hdigits hspace]
    · rw [Metadata.dropWhile_number_append hdigits hspace]

instance : DecidablePred IsMarker := fun l => decidable_of_iff _ (isMarker_eq_true_iff l)

/-! ### What is to remain, and what is kept -/

/-- The lines that are to remain of a text: its lines without the marker lines. -/
def remaining (s : List Char) : List (List Char) :=
  (Framing.framedLines s).filter fun l => ¬ IsMarker l

/-- **A text without its marker lines, as it should be.** -/
def unmarked (s : List Char) : List Char :=
  textOf (remaining s)

/-- The lines that the filter keeps of a text. -/
def kept (s : List Char) : List (List Char) :=
  (Text.displayLines s).filter fun l => ¬ IsMarker l

/-- **The lines that marker lines leave behind:** what is displayed for a marker line besides the
marker itself, if it holds line breaks among its blanks. -/
def splitOff (s : List Char) : List (List Char) :=
  ((endedLines s).filter fun e => IsMarker (withoutNewline e)).flatMap fun e =>
    (Text.displayLines e).filter fun l => ¬ IsMarker l

theorem strip_eq_textOf_kept (s : List Char) : strip s = textOf (kept s) := by
  have hkept : (Text.displayLines s).filter (fun l => !isMarker l) = kept s :=
    List.filter_congr fun l _ => by
      rw [Bool.eq_iff_iff, Bool.not_eq_true', Bool.eq_false_iff, ne_eq, isMarker_eq_true_iff,
        decide_eq_true_eq]
  rw [strip, hkept, textOf]

/-- **The lines that are kept are those that are to remain, in order, and those that are split
off,** unless a remaining line comes apart. -/
theorem kept_perm {s : List Char} (h : ∀ l ∈ remaining s, IsUnbroken l) :
    (remaining s).Sublist (kept s) ∧ (kept s).Perm (remaining s ++ splitOff s) := by
  have hlines : ∀ e ∈ endedLines s, ¬ IsMarker (withoutNewline e) →
      Text.displayLines e = [withoutNewline e] := by
    intro e he hmarker
    refine Text.displayLines_of_isUnbroken he (h _ (List.mem_filter.2 ⟨?_, by simpa using hmarker⟩))
    rw [Text.framedLines_eq_map]
    exact List.mem_map_of_mem he
  rw [kept, remaining, splitOff, Text.displayLines_eq_flatMap, Text.framedLines_eq_map]
  generalize endedLines s = es at hlines
  clear h
  induction es with
  | nil => exact ⟨List.Sublist.refl _, List.Perm.refl _⟩
  | cons e es ih =>
      obtain ⟨he, hes⟩ := List.forall_mem_cons.1 hlines
      obtain ⟨hsub, hperm⟩ := ih hes
      rw [List.flatMap_cons, List.filter_append, List.map_cons]
      by_cases hmarker : IsMarker (withoutNewline e)
      · rw [List.filter_cons_of_neg (by simpa using hmarker),
          List.filter_cons_of_pos (by simpa using hmarker), List.flatMap_cons]
        exact ⟨hsub.trans (List.sublist_append_right _ _),
          (hperm.append_left _).trans (List.perm_append_comm_assoc _ _ _)⟩
      · rw [List.filter_cons_of_pos (by simpa using hmarker),
          List.filter_cons_of_neg (by simpa using hmarker), he hmarker,
          List.filter_cons_of_pos (by simpa using hmarker), List.filter_nil, List.singleton_append,
          List.cons_append]
        exact ⟨hsub.cons_cons _, hperm.cons _⟩

/-! ### Texts of lines -/

theorem newline_notMem_of_mem_remaining {s l : List Char} (h : l ∈ remaining s) : '\n' ∉ l :=
  Framing.newline_notMem_of_mem_framedLines (List.mem_filter.1 h).1

theorem isUnbroken_of_mem_kept {s l : List Char} (h : l ∈ kept s) : IsUnbroken l :=
  Text.not_isBreak_of_mem_displayLines (List.mem_filter.1 h).1

theorem newline_notMem_of_mem_kept {s l : List Char} (h : l ∈ kept s) : '\n' ∉ l := fun hmem =>
  absurd (isUnbroken_of_mem_kept h _ hmem) (by decide)

/-- **Lines with the same text are the same,** save that the text of no line is that of one line
that is empty. -/
theorem textOf_eq_iff {ls ms : List (List Char)} (hls : ∀ l ∈ ls, '\n' ∉ l)
    (hms : ∀ l ∈ ms, '\n' ∉ l) :
    textOf ls = textOf ms ↔ ls = ms ∨ ls = [[]] ∧ ms = [] ∨ ls = [] ∧ ms = [[]] := by
  rw [textOf, textOf, List.append_left_inj, Text.joinWith_newline_eq_iff hls hms]

/-- The number of lines of a text of lines, of which there is at least one. -/
theorem lineCount_textOf {ls : List (List Char)} (h : ∀ l ∈ ls, '\n' ∉ l) :
    (StageOutput.ofText (String.ofList (textOf ls))).lineCount = (max 1 ls.length : Nat) := by
  have hend : endWithNewline (textOf ls) = textOf ls := by
    rw [endWithNewline, if_pos (by simp [textOf])]
  rw [StageOutput.ofText_lineCount, String.toList_ofList, hend]
  by_cases hls : ls = []
  · rw [hls]
    rfl
  · have hpos : 1 ≤ ls.length := List.length_pos_of_ne_nil hls
    rw [textOf_eq_unpieces hls, Text.count_newline_unpieces ls h, Nat.max_eq_right hpos]

/-! ### Texts that lose their marker lines and nothing else -/

theorem remaining_eq_nil_iff (s : List Char) :
    remaining s = [] ↔ ∀ l ∈ Framing.framedLines s, IsMarker l := by
  simp [remaining]

theorem forall_mem_remaining_iff (s : List Char) :
    (∀ l ∈ remaining s, IsUnbroken l) ↔
      ∀ l ∈ Framing.framedLines s, ¬ IsMarker l → IsUnbroken l := by
  simp [remaining]

/-- No line comes apart in a text of which the lines that are kept make up what is to remain. -/
theorem isUnbroken_of_textOf_kept_eq {s : List Char}
    (h : textOf (kept s) = textOf (remaining s)) {l : List Char} (hl : l ∈ remaining s) :
    IsUnbroken l := by
  rcases (textOf_eq_iff (fun _ => newline_notMem_of_mem_kept)
    fun _ => newline_notMem_of_mem_remaining).1 h with heq | ⟨-, hnil⟩ | ⟨-, hempty⟩
  · exact isUnbroken_of_mem_kept (heq ▸ hl)
  · rw [hnil] at hl
    cases hl
  · rw [hempty] at hl
    rw [List.mem_singleton.1 hl]
    exact List.forall_mem_nil _

/-- If no line that is to remain comes apart, only what is split off makes a difference. -/
theorem textOf_kept_eq_iff {s : List Char} (h : ∀ l ∈ remaining s, IsUnbroken l) :
    textOf (kept s) = textOf (remaining s) ↔
      splitOff s = [] ∨ splitOff s = [[]] ∧ remaining s = [] := by
  obtain ⟨hsub, hperm⟩ := kept_perm h
  have hlength := hperm.length_eq
  rw [List.length_append] at hlength
  constructor
  · intro htext
    rcases (textOf_eq_iff (fun _ => newline_notMem_of_mem_kept)
      fun _ => newline_notMem_of_mem_remaining).1 htext with heq | ⟨hempty, hnil⟩ | ⟨hnil, hempty⟩
    · exact .inl (List.length_eq_zero_iff.1 (by rw [heq] at hlength; omega))
    · rw [hempty, hnil, List.nil_append] at hperm
      exact .inr ⟨List.perm_singleton.1 hperm.symm, hnil⟩
    · rw [hempty, hnil, List.length_nil, List.length_singleton] at hlength
      omega
  · rintro (hnone | ⟨hempty, hnil⟩)
    · rw [hnone, List.append_nil] at hperm
      rw [hsub.eq_of_length hperm.length_eq.symm]
    · rw [hempty, hnil, List.nil_append] at hperm
      rw [List.perm_singleton.1 hperm, hnil]
      rfl

/-- **The texts that lose their marker lines and nothing else.**  They are those of which no line
that is to remain holds a line break, and of which the marker lines leave no line behind, or only an
empty one where nothing is to remain.  The lines of what is left are the lines that are kept, and
would be the lines that are to remain; they are one line more if there are none. -/
theorem strip_eq_unmarked_iff (s : List Char) :
    (strip s = unmarked s ↔
      (∀ l ∈ Framing.framedLines s, ¬ IsMarker l → IsUnbroken l) ∧
        (splitOff s = [] ∨ splitOff s = [[]] ∧ ∀ l ∈ Framing.framedLines s, IsMarker l)) ∧
      (StageOutput.ofText (String.ofList (strip s))).lineCount = (max 1 (kept s).length : Nat) ∧
      (StageOutput.ofText (String.ofList (unmarked s))).lineCount =
        (max 1 (remaining s).length : Nat) := by
  rw [strip_eq_textOf_kept, unmarked, ← remaining_eq_nil_iff, ← forall_mem_remaining_iff]
  refine ⟨⟨fun h => ?_, fun ⟨hunbroken, h⟩ => (textOf_kept_eq_iff hunbroken).2 h⟩,
    lineCount_textOf fun _ => newline_notMem_of_mem_kept,
    lineCount_textOf fun _ => newline_notMem_of_mem_remaining⟩
  have hunbroken : ∀ l ∈ remaining s, IsUnbroken l := fun _ => isUnbroken_of_textOf_kept_eq h
  exact ⟨hunbroken, (textOf_kept_eq_iff hunbroken).1 h⟩

/-- A form feed in a line that is to remain tears it. -/
theorem exists_torn_formFeed :
    ∃ s, unmarked s = s ∧ strip s ≠ s ∧ (remaining s).length = 1 ∧ (kept s).length = 2 :=
  ⟨"x = '\x0c'\n".toList, by decide +kernel⟩

end JitExplorer.Marker
