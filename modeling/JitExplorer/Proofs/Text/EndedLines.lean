/-
**Lines that end at newlines, and the display lines in them.**

A text is cut behind each of its newlines; what stands behind the last one is a line that lacks its
newline.  No line break reaches over such a cut, since a carriage return and the newline behind it
stay together.  So the display lines of a text are those of its lines, one after another: a line
without other line breaks is one display line, and any other line may come apart into several.

Main definitions:

* `Text.endedLines` — the lines of a text, each with the newline that ends it;
* `Text.withoutNewline` — a line without that newline.

Main results:

* `Text.line_induction` — a text is built line by line;
* `Text.displayLines_eq_flatMap` — **the display lines of a text are those of its lines;**
* `Text.framedLines_eq_map` — the lines without their newlines;
* `Text.displayLines_of_isUnbroken` — a line without other line breaks is one display line.
-/

import JitExplorer.Proofs.Filter.Instrumented
import JitExplorer.Proofs.Framing.Concatenation

set_option autoImplicit false

namespace JitExplorer.Text

open Metadata (IsUnbroken)

/-! ### Lines with their newlines -/

/-- **The lines of a text, each with the newline that ends it.**  The last one may lack it. -/
def endedLines : List Char → List (List Char)
  | [] => []
  | c :: s => if c = '\n' then ['\n'] :: endedLines s else consHead c (endedLines s)

/-- A line without the newline that ends it. -/
def withoutNewline (e : List Char) : List Char :=
  e.takeWhile (· != '\n')

/-- **A text is built line by line,** from the end. -/
theorem line_induction {motive : List Char → Prop} (nil : motive [])
    (last : ∀ l, l ≠ [] → '\n' ∉ l → motive l)
    (line : ∀ l s, '\n' ∉ l → motive s → motive (l ++ '\n' :: s)) (s : List Char) : motive s := by
  obtain ⟨ls, tail, hpieces, rfl⟩ := exists_unpieces_append s
  have hpiece : ∀ l ∈ ls ++ [tail], '\n' ∉ l := fun l hl =>
    newline_notMem_of_mem_pieces (hpieces ▸ hl)
  clear hpieces
  induction ls with
  | nil =>
      by_cases htail : tail = []
      · exact htail ▸ nil
      · exact last tail htail (hpiece tail (by simp))
  | cons l ls ih =>
      obtain ⟨hl, hls⟩ := List.forall_mem_cons.1 hpiece
      rw [unpieces, List.append_assoc]
      exact line l _ hl (ih hls)

theorem endedLines_append_newline {l : List Char} (h : '\n' ∉ l) (s : List Char) :
    endedLines (l ++ '\n' :: s) = (l ++ ['\n']) :: endedLines s := by
  induction l with
  | nil => rfl
  | cons c l ih =>
      simp only [List.mem_cons, not_or] at h
      rw [List.cons_append, endedLines, if_neg (Ne.symm h.1), ih h.2, consHead]
      rfl

theorem endedLines_of_notMem {l : List Char} (hne : l ≠ []) (h : '\n' ∉ l) :
    endedLines l = [l] := by
  induction l with
  | nil => exact absurd rfl hne
  | cons c l ih =>
      simp only [List.mem_cons, not_or] at h
      rw [endedLines, if_neg (Ne.symm h.1)]
      by_cases hl : l = []
      · rw [hl]
        rfl
      · rw [ih hl h.2, consHead]

theorem withoutNewline_append_newline {l : List Char} (h : '\n' ∉ l) (s : List Char) :
    withoutNewline (l ++ '\n' :: s) = l := by
  have hl : ∀ c ∈ l, (c != '\n') = true := fun c hc => by
    rw [bne_iff_ne]
    rintro rfl
    exact h hc
  rw [withoutNewline, List.takeWhile_append_of_pos hl, List.takeWhile_cons_of_neg (by simp),
    List.append_nil]

theorem withoutNewline_of_notMem {l : List Char} (h : '\n' ∉ l) : withoutNewline l = l := by
  refine List.takeWhile_eq_self_iff.2 fun c hc => ?_
  rw [bne_iff_ne]
  rintro rfl
  exact h hc

/-- A line ends with a newline, or is a last line that is not empty. -/
theorem mem_endedLines {s e : List Char} (h : e ∈ endedLines s) :
    '\n' ∉ withoutNewline e ∧
      (e = withoutNewline e ++ ['\n'] ∨ e = withoutNewline e ∧ withoutNewline e ≠ []) := by
  induction s using line_induction with
  | nil => cases h
  | last l hne hl =>
      rw [endedLines_of_notMem hne hl, List.mem_singleton] at h
      subst h
      rw [withoutNewline_of_notMem hl]
      exact ⟨hl, .inr ⟨rfl, hne⟩⟩
  | line l s hl ih =>
      rw [endedLines_append_newline hl] at h
      rcases List.mem_cons.1 h with rfl | h
      · rw [withoutNewline_append_newline hl []]
        exact ⟨hl, .inl rfl⟩
      · exact ih h

/-- **The lines of a text without their newlines.** -/
theorem framedLines_eq_map (s : List Char) :
    Framing.framedLines s = (endedLines s).map withoutNewline := by
  induction s using line_induction with
  | nil => rfl
  | last l hne hl =>
      rw [endedLines_of_notMem hne hl, List.map_singleton, withoutNewline_of_notMem hl]
      simp [Framing.framedLines, pieces_of_notMem hl, hne]
  | line l s hl ih =>
      have hlines := Framing.framedLines_unpieces_append (List.forall_mem_singleton.2 hl) s
      rw [unpieces, unpieces, List.append_assoc, List.cons_append, List.nil_append] at hlines
      rw [hlines, endedLines_append_newline hl, List.map_cons, withoutNewline_append_newline hl [],
        ih, List.singleton_append]

/-! ### Display lines -/

theorem consHead_append (c : Char) {ls : List (List Char)} (hne : ls ≠ []) (ms : List (List Char)) :
    consHead c (ls ++ ms) = consHead c ls ++ ms := by
  obtain ⟨l, ls, rfl⟩ := List.exists_cons_of_ne_nil hne
  rfl

theorem displayLines_ne_nil {s : List Char} (hne : s ≠ []) : displayLines s ≠ [] := by
  induction s using displayLines.induct with
  | case1 => exact absurd rfl hne
  | case2 s ih => exact List.cons_ne_nil _ _
  | case3 c s hpair hc ih =>
      rw [displayLines_break hc hpair]
      exact List.cons_ne_nil _ _
  | case4 c s hpair hc ih =>
      rw [displayLines_cons (Bool.eq_false_iff.2 hc)]
      cases displayLines s <;> exact List.cons_ne_nil _ _

/-- A newline cuts the display lines of a text: no line break reaches over it. -/
theorem displayLines_cut_newline {l : List Char} (h : '\n' ∉ l) (s : List Char) :
    displayLines (l ++ '\n' :: s) = displayLines (l ++ ['\n']) ++ displayLines s := by
  induction l using displayLines.induct with
  | case1 => rfl
  | case2 l ih => exact absurd (by simp) h
  | case3 c l hpair hc ih =>
      have hl : '\n' ∉ l := fun hmem => h (List.mem_cons_of_mem c hmem)
      by_cases hreturn : c = '\r' ∧ l = []
      · obtain ⟨rfl, rfl⟩ := hreturn
        rfl
      · have hapart : ∀ rest t : List Char, c = '\r' → l ++ '\n' :: rest = '\n' :: t → False := by
          rintro rest t rfl ht
          cases l with
          | nil => exact hreturn ⟨rfl, rfl⟩
          | cons d l =>
              obtain ⟨rfl, -⟩ := List.cons.inj ht
              exact hl List.mem_cons_self
        rw [List.cons_append, List.cons_append, displayLines_break hc (hapart s),
          displayLines_break hc (hapart []), ih hl, List.cons_append]
  | case4 c l hpair hc ih =>
      have hl : '\n' ∉ l := fun hmem => h (List.mem_cons_of_mem c hmem)
      have hchar : isBreak c = false := Bool.eq_false_iff.2 hc
      have hne : displayLines (l ++ ['\n']) ≠ [] := displayLines_ne_nil (by simp)
      rw [List.cons_append, List.cons_append, displayLines_cons hchar, displayLines_cons hchar,
        ih hl, consHead_append c hne]

/-- **The display lines of a text are those of its lines, one after another.** -/
theorem displayLines_eq_flatMap (s : List Char) :
    displayLines s = (endedLines s).flatMap displayLines := by
  induction s using line_induction with
  | nil => rfl
  | last l hne hl => rw [endedLines_of_notMem hne hl, List.flatMap_singleton]
  | line l s hl ih =>
      rw [displayLines_cut_newline hl, endedLines_append_newline hl, List.flatMap_cons, ih]

theorem displayLines_of_forall_not_isBreak {l : List Char} (hne : l ≠ []) (h : IsUnbroken l) :
    displayLines l = [l] := by
  induction l with
  | nil => exact absurd rfl hne
  | cons c l ih =>
      obtain ⟨hc, hl⟩ := List.forall_mem_cons.1 h
      rw [displayLines_cons hc]
      by_cases hlast : l = []
      · rw [hlast]
        rfl
      · rw [ih hlast hl, consHead]

/-- **A line without other line breaks is one display line.** -/
theorem displayLines_of_isUnbroken {s e : List Char} (he : e ∈ endedLines s)
    (h : IsUnbroken (withoutNewline e)) : displayLines e = [withoutNewline e] := by
  obtain ⟨-, hends | ⟨hlast, hne⟩⟩ := mem_endedLines he
  · have hlines := displayLines_append_newline _ [] h
    rwa [← hends] at hlines
  · have hlines := displayLines_of_forall_not_isBreak hne h
    exact (congrArg displayLines hlast).trans hlines

end JitExplorer.Text
