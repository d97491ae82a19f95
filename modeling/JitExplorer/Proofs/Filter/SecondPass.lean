/-
**A second pass of a filter changes nothing.**

The filters for assembly and for source markers read a text by its display lines and write the lines
that they keep, each ended by a newline.  So what they write is a listing: lines without line
breaks, at least one, none of a kind that the filter drops.  A listing is read back as the lines
that it was written from, and if no line is of a kind that is dropped, the filter keeps them all;
for assembly, this is because no debug section is ever entered where no line looks as if it selected
one.

Main definitions:

* `Filter.through` — the text of the lines that are kept of a text;
* `Filter.Drops` — a filter drops lines until none is of a given kind, and keeps the others;
* `Filter.IsListing` — a text of lines none of which is of a given kind.

Main results:

* `Filter.displayLines_textOf` — a text of lines is read back as these lines;
* `Filter.Drops.isListing`, `Filter.Drops.through_eq_self_iff` — a filter leaves listings, and
  leaves alone exactly these;
* `Filter.drops_stripLines`, `Filter.drops_markers` — the kinds of lines that the filters drop;
* `Filter.second_pass` — **the filters are idempotent, and leave no line that they drop.**
-/

import JitExplorer.Filter.Marker
import JitExplorer.Proofs.Filter.DebugSection
import JitExplorer.Proofs.Filter.Instrumented

set_option autoImplicit false

namespace JitExplorer.Filter

open Metadata (IsUnbroken textOf textOf_eq_unpieces)

/-! ### Texts of lines -/

/-- **A text of lines is read back as these lines;** the text of no line is read as one line that is
empty. -/
theorem displayLines_textOf {ls : List (List Char)} (h : ∀ l ∈ ls, IsUnbroken l) :
    Text.displayLines (textOf ls) = if ls = [] then [[]] else ls := by
  split
  · rename_i hnil
    rw [hnil]
    rfl
  · rename_i hne
    rw [textOf_eq_unpieces hne, Text.displayLines_unpieces ls h]

theorem textOf_singleton_nil : textOf [[]] = textOf [] := rfl

/-- **A text of lines of which none is of a given kind.** -/
def IsListing (Dropped : List Char → Prop) (s : List Char) : Prop :=
  ∃ ls : List (List Char), ls ≠ [] ∧ (∀ l ∈ ls, IsUnbroken l ∧ ¬ Dropped l) ∧ s = textOf ls

/-- Whether lines end at newlines only or at all line breaks, no line of a listing is of the kind.
-/
theorem IsListing.not_dropped {Dropped : List Char → Prop} {s l : List Char}
    (h : IsListing Dropped s) (hempty : ¬ Dropped [])
    (hl : l ∈ Text.displayLines s ∨ l ∈ Text.pieces s) : ¬ Dropped l := by
  obtain ⟨ls, hne, hls, rfl⟩ := h
  have hunbroken : ∀ l ∈ ls, IsUnbroken l := fun l hl => (hls l hl).1
  rcases hl with hl | hl
  · rw [displayLines_textOf hunbroken, if_neg hne] at hl
    exact (hls l hl).2
  · have hnewline : ∀ l ∈ ls, '\n' ∉ l := fun l hl hmem =>
      absurd (hunbroken l hl _ hmem) (by decide)
    rw [textOf_eq_unpieces hne, ← List.append_nil (Text.unpieces ls),
      Text.pieces_unpieces_append ls [] hnewline] at hl
    rcases List.mem_append.1 hl with hl | hl
    · exact (hls l hl).2
    · rw [List.mem_singleton.1 hl]
      exact hempty

/-! ### Filters that drop lines -/

/-- The text of the lines that are kept of a text. -/
def through (keep : List (List Char) → List (List Char)) (s : List Char) : List Char :=
  textOf (keep (Text.displayLines s))

/-- **Lines are dropped until none is of a given kind,** and no others are dropped from lines none
of which is. -/
structure Drops (keep : List (List Char) → List (List Char)) (Dropped : List Char → Prop) :
    Prop where
  sublist : ∀ ls, (keep ls).Sublist ls
  not_dropped : ∀ ls, ∀ l ∈ keep ls, ¬ Dropped l
  eq_self : ∀ ls, (∀ l ∈ ls, ¬ Dropped l) → keep ls = ls
  not_dropped_nil : ¬ Dropped []

namespace Drops

variable {keep : List (List Char) → List (List Char)} {Dropped : List Char → Prop}

/-- **A filter leaves a listing.** -/
theorem isListing (h : Drops keep Dropped) (s : List Char) :
    IsListing Dropped (through keep s) := by
  have hkept : ∀ l ∈ keep (Text.displayLines s), IsUnbroken l ∧ ¬ Dropped l := fun l hl =>
    ⟨Text.not_isBreak_of_mem_displayLines ((h.sublist _).subset hl), h.not_dropped _ l hl⟩
  by_cases hnone : keep (Text.displayLines s) = []
  · refine ⟨[[]], List.cons_ne_nil _ _, ?_, by rw [through, hnone, textOf_singleton_nil]⟩
    exact List.forall_mem_singleton.2 ⟨List.forall_mem_nil _, h.not_dropped_nil⟩
  · exact ⟨_, hnone, hkept, rfl⟩

/-- A filter leaves a listing alone. -/
theorem through_eq_self (h : Drops keep Dropped) {s : List Char} (hs : IsListing Dropped s) :
    through keep s = s := by
  obtain ⟨ls, hne, hls, rfl⟩ := hs
  rw [through, displayLines_textOf fun l hl => (hls l hl).1, if_neg hne,
    h.eq_self ls fun l hl => (hls l hl).2]

/-- **A filter leaves alone exactly the listings.** -/
theorem through_eq_self_iff (h : Drops keep Dropped) (s : List Char) :
    through keep s = s ↔ IsListing Dropped s :=
  ⟨fun hs => hs ▸ h.isListing s, h.through_eq_self⟩

theorem through_through (h : Drops keep Dropped) (s : List Char) :
    through keep (through keep s) = through keep s :=
  h.through_eq_self (h.isListing s)

end Drops

/-! ### Assembly -/

/-- A line that looks as if it selected a debug section, or like a debug directive. -/
def ShowsDebug (l : List Char) : Prop :=
  Assembly.OpensDebug l ∨ Assembly.BeginsLike Assembly.debugDirectives l

/-- **What a line shows of debug information is seen on the trimmed line.** -/
theorem showsDebug_iff (l : List Char) :
    ShowsDebug l ↔
      (".section".toList <+: Text.trim l ∧ ".debug_".toList <:+: Text.trim l) ∨
        ∃ d ∈ Assembly.debugDirectives, d <+: Text.trim l := by
  refine or_congr (and_congr ?_ ?_) (exists_congr fun d => and_congr_right fun hd => ?_)
  · exact (Assembly.prefix_trim_iff (by decide) l).symm
  · exact (Assembly.infix_trim_iff (by decide) l).symm
  · have hunblank : ∀ d ∈ Assembly.debugDirectives, Assembly.IsUnblank d := by decide
    exact (Assembly.prefix_trim_iff (hunblank d hd) l).symm

/-- Behind a line that does not look as if it selected a debug section, none is selected if none was
selected before. -/
theorem inDebugAfter_false {l : List Char} (h : ¬ Assembly.OpensDebug l) :
    Assembly.inDebugAfter false (Assembly.selection (Text.trim l)) = false := by
  by_cases hcloses : Assembly.ClosesDebug l
  · rw [Assembly.selection_of_closesDebug hcloses, Assembly.inDebugAfter]
  · rw [(Assembly.selection_of_not_selects h hcloses).1, Assembly.inDebugAfter]

theorem stripLines_eq_self {ls : List (List Char)} (h : ∀ l ∈ ls, ¬ ShowsDebug l) :
    Assembly.stripLines false ls = ls := by
  induction ls with
  | nil => rfl
  | cons l ls ih =>
      obtain ⟨hl, hls⟩ := List.forall_mem_cons.1 h
      obtain ⟨hopens, hlike⟩ := not_or.1 hl
      have hdirective : Assembly.isDebugDirective (Text.trim l) = false :=
        Bool.eq_false_iff.2 (mt (Assembly.isDebugDirective_trim_iff l).1 hlike)
      simp only [Assembly.stripLines, inDebugAfter_false hopens, hdirective, Bool.or_false,
        Bool.false_eq_true, if_false, ih hls]

/-- **The filter for assembly drops the lines that show debug information.** -/
theorem drops_stripLines : Drops (Assembly.stripLines false) ShowsDebug where
  sublist := Assembly.stripLines_sublist false
  not_dropped := fun ls _ hl hshows => Assembly.notMem_stripLines hshows false ls hl
  eq_self := fun _ => stripLines_eq_self
  not_dropped_nil := by
    rw [showsDebug_iff]
    decide

/-! ### Source markers -/

/-- **The filter for source markers drops the marker lines.** -/
theorem drops_markers :
    Drops (fun ls => ls.filter fun l => !Marker.isMarker l) (Marker.isMarker · = true) where
  sublist := fun _ => List.filter_sublist
  not_dropped := fun ls l hl => by simpa using (List.mem_filter.1 hl).2
  eq_self := fun ls h => List.filter_eq_self.2 fun l hl => by simpa using h l hl
  not_dropped_nil := by decide

/-! ### Both filters -/

/-- **The filters are idempotent, and leave no line that they drop.**  A second pass changes
nothing; a text is left alone exactly if it is a listing without the lines that are dropped; and no
line of what is left of assembly, whichever line breaks end lines, begins like a section directive
and mentions a debug section, or begins like a debug directive, when trimmed. -/
theorem second_pass (s : List Char) :
    Assembly.strip (Assembly.strip s) = Assembly.strip s ∧
      Marker.strip (Marker.strip s) = Marker.strip s ∧
      (Assembly.strip s = s ↔ IsListing ShowsDebug s) ∧
      (Marker.strip s = s ↔ IsListing (Marker.isMarker · = true) s) ∧
      ∀ l, l ∈ Text.displayLines (Assembly.strip s) ∨ l ∈ Text.pieces (Assembly.strip s) →
        ¬ (".section".toList <+: Text.trim l ∧ ".debug_".toList <:+: Text.trim l) ∧
          ∀ d ∈ [".loc", ".file", ".cv_loc", ".cv_file", ".cfi_sections"],
            ¬ d.toList <+: Text.trim l := by
  refine ⟨drops_stripLines.through_through s, drops_markers.through_through s,
    drops_stripLines.through_eq_self_iff s, drops_markers.through_eq_self_iff s, fun l hl => ?_⟩
  have hshows := (drops_stripLines.isListing s).not_dropped drops_stripLines.not_dropped_nil hl
  rw [showsDebug_iff, not_or] at hshows
  refine ⟨hshows.1, fun d hd hprefix => hshows.2 ⟨d.toList, ?_, hprefix⟩⟩
  exact List.mem_map_of_mem (f := String.toList) hd

end JitExplorer.Filter
