/-
**Lines of a text.**

There are two notions of a line here.  A *piece* is what stands between newline characters; the
framed output counts pieces.  A *display line* ends at any of the eleven line breaks of Unicode
text, where a carriage return followed by a newline is one break; the filters on compiler listings
work on display lines.

Main definitions:

* `Text.pieces` — the pieces of a text, of which there is at least one;
* `Text.displayLines` — the display lines of a text, without their breaks;
* `Text.parts` — what stands between the marks of a text, for any mark;
* `Text.joinWith` — lists of characters joined by a separator;
* `Text.unpieces` — lines written out, each ended by a newline;
* `Text.join`, `Text.writeLines` — strings joined by a separator, or written as lines.

Main results:

* `Text.toList_join` — joining strings joins their characters;
* `Text.joinWith_pieces` — joining the pieces with newlines gives the text back;
* `Text.pieces_append_newline` — pieces of a text that is cut at a newline;
* `Text.pieces_unpieces_append` — lines that were written out are read back as pieces;
* `Text.exists_unpieces_append` — a text is lines that were written out, and a last piece;
* `Text.pieces_joinWith` — lines that were joined are the pieces of the joined text;
* `Text.joinWith_newline_eq_iff` — which lines are joined to the same text;
* `Text.displayLines_unpieces` — lines without breaks that were written out are the display lines.
-/

set_option autoImplicit false

namespace JitExplorer.Text

/-! ### Joining -/

/-- Lists of characters joined by a separator. -/
def joinWith (sep : List Char) : List (List Char) → List Char
  | [] => []
  | [l] => l
  | l :: m :: ls => l ++ sep ++ joinWith sep (m :: ls)

/-- Strings joined by a separator. -/
def join (sep : String) : List String → String
  | [] => ""
  | [s] => s
  | s :: t :: ss => s ++ sep ++ join sep (t :: ss)

/-- Joining strings joins their characters. -/
theorem toList_join (sep : String) (texts : List String) :
    (join sep texts).toList = joinWith sep.toList (texts.map String.toList) := by
  match texts with
  | [] => rfl
  | [_] => rfl
  | t :: u :: texts =>
      have hrest := toList_join sep (u :: texts)
      rw [List.map_cons] at hrest
      simp only [join, String.toList_append, List.map_cons, joinWith, hrest]

/-- Without a separator, the lists stand one after another. -/
theorem joinWith_empty (ls : List (List Char)) : joinWith [] ls = ls.flatten := by
  match ls with
  | [] => rfl
  | [l] => simp [joinWith]
  | l :: m :: ls =>
      rw [joinWith, joinWith_empty (m :: ls), List.append_nil]
      rfl

/-- Lines written out, each ended by a newline. -/
def unpieces : List (List Char) → List Char
  | [] => []
  | l :: ls => l ++ '\n' :: unpieces ls

/-- Strings written out as lines, each ended by a newline. -/
def writeLines : List String → String
  | [] => ""
  | line :: lines => line ++ "\n" ++ writeLines lines

/-! ### Pieces between newlines -/

/-- A character put in front of the first line, which is created if there is none. -/
def consHead (c : Char) : List (List Char) → List (List Char)
  | [] => [[c]]
  | l :: ls => (c :: l) :: ls

/-- What stands between the newline characters of a text. -/
def pieces : List Char → List (List Char)
  | [] => [[]]
  | c :: s => if c = '\n' then [] :: pieces s else consHead c (pieces s)

theorem pieces_ne_nil (s : List Char) : pieces s ≠ [] := by
  cases s with
  | nil => simp [pieces]
  | cons c s =>
      unfold pieces
      split
      · simp
      · cases pieces s <;> simp [consHead]

theorem joinWith_consHead (sep : List Char) (c : Char) (ls : List (List Char)) (h : ls ≠ []) :
    joinWith sep (consHead c ls) = c :: joinWith sep ls := by
  match ls with
  | [] => exact absurd rfl h
  | [_] => rfl
  | _ :: _ :: _ => rfl

theorem joinWith_nil_cons (sep : List Char) (ls : List (List Char)) (h : ls ≠ []) :
    joinWith sep ([] :: ls) = sep ++ joinWith sep ls := by
  match ls with
  | [] => exact absurd rfl h
  | _ :: _ => simp [joinWith]

/-- Joining the pieces with newlines gives the text back. -/
theorem joinWith_pieces (s : List Char) : joinWith ['\n'] (pieces s) = s := by
  induction s with
  | nil => rfl
  | cons c s ih =>
      unfold pieces
      split
      · rename_i hc
        rw [joinWith_nil_cons _ _ (pieces_ne_nil s), ih, hc]
        rfl
      · rw [joinWith_consHead _ _ _ (pieces_ne_nil s), ih]

/-- A newline ends the piece in front of it. -/
theorem pieces_append_newline (l s : List Char) (h : '\n' ∉ l) :
    pieces (l ++ '\n' :: s) = l :: pieces s := by
  induction l with
  | nil => simp [pieces]
  | cons c l ih =>
      simp only [List.mem_cons, not_or] at h
      simp only [List.cons_append, pieces, ih h.2, consHead]
      rw [if_neg (Ne.symm h.1)]

/-- What holds no newline belongs to the first piece of what follows it. -/
theorem pieces_append_of_notMem {l : List Char} (h : '\n' ∉ l) {s m : List Char}
    {ms : List (List Char)} (hs : pieces s = m :: ms) : pieces (l ++ s) = (l ++ m) :: ms := by
  induction l with
  | nil => exact hs
  | cons c l ih =>
      simp only [List.mem_cons, not_or] at h
      rw [List.cons_append, pieces, if_neg (Ne.symm h.1), ih h.2, consHead, List.cons_append]

/-- A text without newlines is one piece. -/
theorem pieces_of_notMem {l : List Char} (h : '\n' ∉ l) : pieces l = [l] := by
  have hl := pieces_append_of_notMem h (s := []) rfl
  rwa [List.append_nil] at hl

/-- A piece holds no newline. -/
theorem newline_notMem_of_mem_pieces {s l : List Char} (h : l ∈ pieces s) : '\n' ∉ l := by
  induction s generalizing l with
  | nil => simp_all [pieces]
  | cons c s ih =>
      unfold pieces at h
      split at h
      · rcases List.mem_cons.1 h with rfl | h
        · simp
        · exact ih h
      · rename_i hc
        obtain ⟨m, ms, hms⟩ := List.exists_cons_of_ne_nil (pieces_ne_nil s)
        rw [hms, consHead] at h
        rcases List.mem_cons.1 h with rfl | h
        · have hm : '\n' ∉ m := ih (by simp [hms])
          simpa [hm] using Ne.symm hc
        · exact ih (by simp [hms, h])

/-! ### Lines that are written out -/

@[simp] theorem unpieces_append (ls ms : List (List Char)) :
    unpieces (ls ++ ms) = unpieces ls ++ unpieces ms := by
  induction ls with
  | nil => rfl
  | cons l ls ih => simp [unpieces, ih]

/-- Lines that were written out are read back as pieces. -/
theorem pieces_unpieces_append (ls : List (List Char)) (s : List Char) (h : ∀ l ∈ ls, '\n' ∉ l) :
    pieces (unpieces ls ++ s) = ls ++ pieces s := by
  induction ls with
  | nil => rfl
  | cons l ls ih =>
      have hrest : pieces (unpieces ls ++ s) = ls ++ pieces s :=
        ih fun m hm => h m (List.mem_cons_of_mem l hm)
      rw [unpieces, List.append_assoc, List.cons_append, pieces_append_newline _ _ (h l (by simp)),
        hrest, List.cons_append]

theorem toList_writeLines (lines : List String) :
    (writeLines lines).toList = unpieces (lines.map String.toList) := by
  induction lines with
  | nil => rfl
  | cons line lines ih => simp [writeLines, unpieces, ih]

/-- Lines that were written out end with a newline. -/
theorem getLast?_unpieces {ls : List (List Char)} (hne : ls ≠ []) :
    (unpieces ls).getLast? = some '\n' := by
  obtain ⟨front, last, rfl⟩ := (List.eq_nil_or_concat ls).resolve_left hne
  simp [unpieces]

/-- Every line that is written out adds one newline. -/
theorem count_newline_unpieces (ls : List (List Char)) (h : ∀ l ∈ ls, '\n' ∉ l) :
    (unpieces ls).count '\n' = ls.length := by
  induction ls with
  | nil => rfl
  | cons l ls ih =>
      have hl : l.count '\n' = 0 := List.count_eq_zero.2 (h l (by simp))
      have hrest := ih fun m hm => h m (List.mem_cons_of_mem l hm)
      simp [unpieces, hl, hrest]

/-- The lines in front of the last piece, written out, and the last piece make up a joined text. -/
theorem unpieces_append_eq_joinWith (ls : List (List Char)) (last : List Char) :
    unpieces ls ++ last = joinWith ['\n'] (ls ++ [last]) := by
  induction ls with
  | nil => rfl
  | cons l ls ih =>
      cases ls with
      | nil => simp [unpieces, joinWith]
      | cons m ls =>
          simp only [unpieces, List.append_assoc, List.cons_append] at ih ⊢
          simp [joinWith, ih]

/-- A text is lines that were written out, and a last piece. -/
theorem exists_unpieces_append (s : List Char) :
    ∃ ls last, pieces s = ls ++ [last] ∧ s = unpieces ls ++ last := by
  have hne := pieces_ne_nil s
  refine ⟨(pieces s).dropLast, (pieces s).getLast hne, (List.dropLast_concat_getLast hne).symm, ?_⟩
  rw [unpieces_append_eq_joinWith, List.dropLast_concat_getLast hne, joinWith_pieces]

/-- A text that ends with a newline consists of lines that were written out. -/
theorem exists_unpieces_of_getLast? {s : List Char} (h : s.getLast? = some '\n') :
    ∃ ls, (∀ l ∈ ls, '\n' ∉ l) ∧ s = unpieces ls := by
  obtain ⟨ls, last, hp, hs⟩ := exists_unpieces_append s
  have hpiece : ∀ l ∈ ls ++ [last], '\n' ∉ l := fun l hl =>
    newline_notMem_of_mem_pieces (hp ▸ hl)
  refine ⟨ls, fun l hl => hpiece l (by simp [hl]), ?_⟩
  rcases List.eq_nil_or_concat last with rfl | ⟨t, c, rfl⟩
  · simpa using hs
  · have hc : c = '\n' := by simpa [hs] using h
    exact absurd (by simp [hc]) (hpiece (t ++ [c]) (by simp))

/-- Lines without newlines that were joined are the pieces of the joined text. -/
theorem pieces_joinWith {ls : List (List Char)} (hne : ls ≠ []) (h : ∀ l ∈ ls, '\n' ∉ l) :
    pieces (joinWith ['\n'] ls) = ls := by
  obtain ⟨front, last, rfl⟩ : ∃ front last, ls = front ++ [last] :=
    ⟨_, _, (List.dropLast_concat_getLast hne).symm⟩
  have hfront : ∀ l ∈ front, '\n' ∉ l := fun l hl => h l (List.mem_append_left _ hl)
  have hlast : '\n' ∉ last := h last (List.mem_append_right _ List.mem_cons_self)
  rw [← unpieces_append_eq_joinWith, pieces_unpieces_append front last hfront,
    pieces_of_notMem hlast]

/-- Lines without newlines that are joined to the same text are the same, save that no line is
joined to the same text as one line that is empty. -/
theorem joinWith_newline_eq_iff {ls ms : List (List Char)} (hls : ∀ l ∈ ls, '\n' ∉ l)
    (hms : ∀ l ∈ ms, '\n' ∉ l) :
    joinWith ['\n'] ls = joinWith ['\n'] ms ↔
      ls = ms ∨ ls = [[]] ∧ ms = [] ∨ ls = [] ∧ ms = [[]] := by
  constructor
  · intro h
    have hpieces := congrArg pieces h
    by_cases hl : ls = []
    · by_cases hm : ms = []
      · exact .inl (hl.trans hm.symm)
      · rw [hl, pieces_joinWith hm hms] at hpieces
        exact .inr (.inr ⟨hl, hpieces.symm⟩)
    · by_cases hm : ms = []
      · rw [hm, pieces_joinWith hl hls] at hpieces
        exact .inr (.inl ⟨hpieces, hm⟩)
      · rw [pieces_joinWith hl hls, pieces_joinWith hm hms] at hpieces
        exact .inl hpieces
  · rintro (rfl | ⟨rfl, rfl⟩ | ⟨rfl, rfl⟩) <;> rfl

/-! ### Parts between marks -/

/-- What stands between the marks of a text. -/
def parts (mark : Char) : List Char → List (List Char)
  | [] => [[]]
  | c :: s => if c = mark then [] :: parts mark s else consHead c (parts mark s)

/-! ### Display lines -/

/-- The characters that end a display line. -/
def isBreak (c : Char) : Bool :=
  c == '\n' || c == '\r' || c == '\x0b' || c == '\x0c' || c == '\x1c' || c == '\x1d' ||
    c == '\x1e' || c == '\u0085' || c == '\u2028' || c == '\u2029'

/-- The display lines of a text, without their breaks.  A break at the very end opens no further
line, and a carriage return followed by a newline is one break. -/
def displayLines : List Char → List (List Char)
  | [] => []
  | '\r' :: '\n' :: s => [] :: displayLines s
  | c :: s => if isBreak c then [] :: displayLines s else consHead c (displayLines s)

theorem displayLines_cons {c : Char} (hc : isBreak c = false) (s : List Char) :
    displayLines (c :: s) = consHead c (displayLines s) := by
  rw [displayLines.eq_def]
  split
  · rename_i h
    cases h
  · rename_i h
    cases h
    cases hc
  · rename_i h
    cases h
    rw [hc]
    rfl

theorem displayLines_break {c : Char} {s : List Char} (hc : isBreak c = true)
    (hne : ∀ t, c = '\r' → s = '\n' :: t → False) :
    displayLines (c :: s) = [] :: displayLines s := by
  rw [displayLines.eq_def]
  split
  · rename_i h
    cases h
  · rename_i t h
    cases h
    exact absurd rfl (hne t rfl)
  · rename_i h
    cases h
    rw [hc]
    rfl

theorem mem_consHead {c : Char} {ls : List (List Char)} {l : List Char} (h : l ∈ consHead c ls) :
    (∃ m, (m = [] ∨ m ∈ ls) ∧ l = c :: m) ∨ l ∈ ls := by
  cases ls with
  | nil => exact .inl ⟨[], .inl rfl, List.mem_singleton.1 h⟩
  | cons m ms =>
      rcases List.mem_cons.1 h with rfl | h
      · exact .inl ⟨m, .inr List.mem_cons_self, rfl⟩
      · exact .inr (List.mem_cons_of_mem m h)

/-- A display line holds no break. -/
theorem not_isBreak_of_mem_displayLines {s l : List Char} (h : l ∈ displayLines s) :
    ∀ c ∈ l, isBreak c = false := by
  induction s using displayLines.induct generalizing l with
  | case1 => cases h
  | case2 s ih =>
      change l ∈ [] :: displayLines s at h
      rcases List.mem_cons.1 h with rfl | h
      · exact fun c hc => nomatch hc
      · exact ih h
  | case3 c s hne hc ih =>
      rw [displayLines_break hc hne] at h
      rcases List.mem_cons.1 h with rfl | h
      · exact fun c hc => nomatch hc
      · exact ih h
  | case4 c s hne hc ih =>
      have hchar : isBreak c = false := Bool.eq_false_iff.2 hc
      rw [displayLines_cons hchar] at h
      rcases mem_consHead h with ⟨m, rfl | hm, rfl⟩ | h
      · exact List.forall_mem_singleton.2 hchar
      · exact List.forall_mem_cons.2 ⟨hchar, ih hm⟩
      · exact ih h

/-- A line without breaks in front of a newline is a display line. -/
theorem displayLines_append_newline (l s : List Char) (h : ∀ c ∈ l, isBreak c = false) :
    displayLines (l ++ '\n' :: s) = l :: displayLines s := by
  induction l with
  | nil => rfl
  | cons c l ih =>
      obtain ⟨hc, hl⟩ := List.forall_mem_cons.1 h
      rw [List.cons_append, displayLines_cons hc, ih hl, consHead]

/-- Lines without breaks that were written out are the display lines of what was written. -/
theorem displayLines_unpieces (ls : List (List Char)) (h : ∀ l ∈ ls, ∀ c ∈ l, isBreak c = false) :
    displayLines (unpieces ls) = ls := by
  induction ls with
  | nil => rfl
  | cons l ls ih =>
      obtain ⟨hl, hls⟩ := List.forall_mem_cons.1 h
      rw [unpieces, displayLines_append_newline l _ hl, ih hls]

end JitExplorer.Text
