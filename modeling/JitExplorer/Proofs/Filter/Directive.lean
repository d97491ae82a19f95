/-
**What a line of assembly is.**

An assembler reads a line by words: the first word is the directive, and a section directive takes
the name of the section as its first operand.  The filter looks at how the trimmed line begins and
at what it holds.  So it takes a line for one with a directive if the first word only begins like
that directive, and for one that selects a debug section if the mark of such a section stands
anywhere in it.

Main definitions:

* `Assembly.directive`, `Assembly.firstOperand`, `Assembly.sectionName` — the parts of a line;
* `Assembly.HasDirective` — a line has one of some directives;
* `Assembly.selectedName?` — the name of the section that a line selects;
* `Assembly.BeginsLike` — the first word of a line begins like one of some directives;
* `Assembly.OpensDebug`, `Assembly.ClosesDebug` — a line looks as if it selected a section.

Main results:

* `Assembly.prefix_trim_iff`, `Assembly.infix_trim_iff` — trimming a line hides no word;
* `Assembly.isDebugDirective_trim_iff` — the lines that the filter takes for debug directives;
* `Assembly.selection_of_opensDebug`, `Assembly.selection_of_closesDebug`,
  `Assembly.selection_of_not_selects` — what the filter takes a line for.
-/

import JitExplorer.Filter.Assembly
import Mathlib.Data.List.DropRight

set_option autoImplicit false

namespace JitExplorer.Assembly

/-! ### Texts without blanks -/

/-- A text without blanks. -/
def IsUnblank (w : List Char) : Prop :=
  ∀ c ∈ w, Text.isBlank c = false

-- Characters are finitely many, so an instance for all of them would be found for the definition.
instance (w : List Char) : Decidable (IsUnblank w) :=
  decidable_of_iff (w.all fun c => !Text.isBlank c) (by simp [IsUnblank])

section IsUnblank

variable {w : List Char} (hw : IsUnblank w)

include hw

theorem IsUnblank.eq_nil {blanks : List Char} (hblanks : ∀ c ∈ blanks, Text.isBlank c = true)
    (h : w ⊆ blanks) : w = [] := by
  refine List.eq_nil_iff_forall_not_mem.2 fun c hc => ?_
  have hblank := hblanks c (h hc)
  rw [hw c hc] at hblank
  cases hblank

/-- Blanks at the end of a text make no difference to how it begins. -/
theorem IsUnblank.prefix_append_iff {blanks : List Char}
    (hblanks : ∀ c ∈ blanks, Text.isBlank c = true) (s : List Char) :
    w <+: s ++ blanks ↔ w <+: s := by
  refine ⟨fun h => ?_, fun h => h.trans (List.prefix_append s blanks)⟩
  rcases List.prefix_or_prefix_of_prefix h (List.prefix_append s blanks) with h' | ⟨e, rfl⟩
  · exact h'
  · have he : IsUnblank e := fun c hc => hw c (List.mem_append_right s hc)
    have hsub : e <+: blanks := (List.prefix_append_right_inj s).1 h
    simp [he.eq_nil hblanks hsub.subset]

/-- Blanks at the end of a text make no difference to what it holds. -/
theorem IsUnblank.infix_append_iff {blanks : List Char}
    (hblanks : ∀ c ∈ blanks, Text.isBlank c = true) (s : List Char) :
    w <:+: s ++ blanks ↔ w <:+: s := by
  induction s with
  | nil =>
      refine ⟨fun h => ?_, fun h => h.trans (List.infix_append [] [] blanks)⟩
      simp [hw.eq_nil hblanks h.subset]
  | cons c s ih =>
      rw [List.cons_append, List.infix_cons_iff, List.infix_cons_iff, ih, ← List.cons_append,
        hw.prefix_append_iff hblanks]

/-- Blanks at the start of a text make no difference to what it holds. -/
theorem IsUnblank.infix_trimLeft_iff (s : List Char) : w <:+: Text.trimLeft s ↔ w <:+: s := by
  refine ⟨fun h => h.trans (List.dropWhile_suffix Text.isBlank).isInfix, fun h => ?_⟩
  induction s with
  | nil => exact h
  | cons c s ih =>
      rw [Text.trimLeft, List.dropWhile_cons]
      split
      · rename_i hc
        rcases List.infix_cons_iff.1 h with ⟨r, hr⟩ | h
        · cases w with
          | nil => exact List.nil_infix
          | cons d w =>
              obtain ⟨rfl, -⟩ := List.cons.inj hr
              exact absurd hc (by simp [hw d List.mem_cons_self])
        · exact ih h
      · exact h

end IsUnblank

/-! ### The parts of a line -/

/-- The directive of a line: its first word. -/
def directive (l : List Char) : List Char :=
  (Text.trimLeft l).takeWhile fun c => !Text.isBlank c

/-- A line has one of some directives. -/
def HasDirective (directives : List (List Char)) (l : List Char) : Prop :=
  directive l ∈ directives

instance (directives : List (List Char)) (l : List Char) : Decidable (HasDirective directives l) :=
  decidable_of_iff (directives.any (· == directive l) = true) (by simp [HasDirective])

/-- The first operand of a line: what stands behind the first word, up to a comma. -/
def firstOperand (l : List Char) : List Char :=
  Text.trim (((Text.trimLeft l).dropWhile fun c => !Text.isBlank c).takeWhile (· != ','))

/-- The first operand of a line without the quotes around it. -/
def sectionName (l : List Char) : List Char :=
  ((firstOperand l).dropWhile (· == '"')).rdropWhile (· == '"')

/-- The directive that selects the section of a given name. -/
def sectionDirective : List Char := ".section".toList

/-- How the names of the debug sections begin. -/
def debugMark : List Char := ".debug_".toList

/-- **The name of the section that a line selects:** the one that is given to a section directive,
or the directive itself if it is one of the plain sections. -/
def selectedName? (l : List Char) : Option (List Char) :=
  if directive l = sectionDirective then some (sectionName l)
  else if HasDirective plainSections l then some (directive l)
  else none

/-- The first word of a line begins like one of some directives. -/
def BeginsLike (directives : List (List Char)) (l : List Char) : Prop :=
  ∃ d ∈ directives, d <+: directive l

/-- A line looks as if it selected a debug section: its first word begins like the section
directive, and it mentions such a section. -/
def OpensDebug (l : List Char) : Prop :=
  sectionDirective <+: directive l ∧ debugMark <:+: l

/-- A line looks as if it selected another section: its first word begins like the section directive
and no debug section is mentioned, or it begins like a plain section. -/
def ClosesDebug (l : List Char) : Prop :=
  (sectionDirective <+: directive l ∧ ¬ debugMark <:+: l) ∨ BeginsLike plainSections l

theorem HasDirective.beginsLike {directives : List (List Char)} {l : List Char}
    (h : HasDirective directives l) : BeginsLike directives l :=
  ⟨directive l, h, List.prefix_rfl⟩

/-! ### Trimmed lines -/

/-- **A trimmed line begins with a word exactly if the first word of the line does.** -/
theorem prefix_trim_iff {w : List Char} (hw : IsUnblank w) (l : List Char) :
    w <+: Text.trim l ↔ w <+: directive l := by
  obtain ⟨blanks, hblanks, hl⟩ := Text.exists_trimRight_append (Text.trimLeft l)
  rw [Text.trim, ← hw.prefix_append_iff hblanks, ← hl, directive]
  refine ⟨?_, fun h => h.trans (List.takeWhile_prefix _)⟩
  rintro ⟨r, hr⟩
  rw [← hr, List.takeWhile_append_of_pos fun c hc => by simp [hw c hc]]
  exact List.prefix_append w _

/-- **A trimmed line holds a word exactly if the line does.** -/
theorem infix_trim_iff {w : List Char} (hw : IsUnblank w) (l : List Char) :
    w <:+: Text.trim l ↔ w <:+: l := by
  obtain ⟨blanks, hblanks, hl⟩ := Text.exists_trimRight_append (Text.trimLeft l)
  rw [Text.trim, ← hw.infix_append_iff hblanks, ← hl, hw.infix_trimLeft_iff]

theorem startsWith_trim_iff {w : List Char} (hw : IsUnblank w) (l : List Char) :
    Text.startsWith w (Text.trim l) = true ↔ w <+: directive l := by
  rw [Text.startsWith_eq_true_iff, ← prefix_trim_iff hw]
  exact exists_congr fun _ => eq_comm

theorem any_startsWith_trim_iff {directives : List (List Char)} (h : ∀ d ∈ directives, IsUnblank d)
    (l : List Char) :
    directives.any (Text.startsWith · (Text.trim l)) = true ↔ BeginsLike directives l := by
  rw [List.any_eq_true]
  exact exists_congr fun d => and_congr_right fun hd => startsWith_trim_iff (h d hd) l

theorem contains_trim_iff {w : List Char} (hw : IsUnblank w) (l : List Char) :
    Text.contains w (Text.trim l) = true ↔ w <:+: l := by
  rw [Text.contains_eq_true_iff, ← infix_trim_iff hw]
  exact exists_congr fun _ => exists_congr fun _ => eq_comm

/-! ### What the filter takes a line for -/

/-- **The lines that the filter takes for debug directives.** -/
theorem isDebugDirective_trim_iff (l : List Char) :
    isDebugDirective (Text.trim l) = true ↔ BeginsLike debugDirectives l :=
  any_startsWith_trim_iff (by decide) l

/-- A word cannot begin like directives of two kinds if none of them begins like another one. -/
theorem BeginsLike.not_beginsLike {directives others : List (List Char)} {l : List Char}
    (h : BeginsLike directives l)
    (hapart : ∀ d ∈ directives, ∀ e ∈ others, ¬ d <+: e ∧ ¬ e <+: d) : ¬ BeginsLike others l := by
  rintro ⟨e, he, hel⟩
  obtain ⟨d, hd, hdl⟩ := h
  rcases List.prefix_or_prefix_of_prefix hdl hel with hde | hed
  · exact (hapart d hd e he).1 hde
  · exact (hapart d hd e he).2 hed

section Selection

variable {l : List Char}

theorem not_beginsLike_of_section (h : sectionDirective <+: directive l) :
    ¬ BeginsLike (debugDirectives ++ plainSections) l :=
  BeginsLike.not_beginsLike ⟨_, List.mem_singleton_self sectionDirective, h⟩ (by decide)

/-- What looks like a section directive does not look like a debug directive. -/
theorem not_beginsLike_of_selects (h : OpensDebug l ∨ ClosesDebug l) :
    ¬ BeginsLike debugDirectives l := by
  have hsection : sectionDirective <+: directive l → ¬ BeginsLike debugDirectives l := by
    rintro hs ⟨d, hd, hl⟩
    exact not_beginsLike_of_section hs ⟨d, List.mem_append_left _ hd, hl⟩
  rcases h with h | h | h
  · exact hsection h.1
  · exact hsection h.1
  · exact h.not_beginsLike (by decide)

/-- A line that looks as if it selected a debug section is taken for one that does. -/
theorem selection_of_opensDebug (h : OpensDebug l) : selection (Text.trim l) = .debug := by
  have hsection := (startsWith_trim_iff (by decide) l).2 h.1
  have hmark := (contains_trim_iff (by decide) l).2 h.2
  exact (if_pos hsection).trans (if_pos hmark)

/-- A line that looks as if it selected another section is taken for one that does. -/
theorem selection_of_closesDebug (h : ClosesDebug l) : selection (Text.trim l) = .plain := by
  rcases h with ⟨h, hmark⟩ | hplain
  · have hsection := (startsWith_trim_iff (by decide) l).2 h
    exact (if_pos hsection).trans (if_neg (mt (contains_trim_iff (by decide) l).1 hmark))
  · have hsection : ¬ sectionDirective <+: directive l := by
      obtain ⟨d, hd, hl⟩ := hplain
      exact fun h => not_beginsLike_of_section h ⟨d, List.mem_append_right _ hd, hl⟩
    have hany := (any_startsWith_trim_iff (by decide) l).2 hplain
    exact (if_neg (mt (startsWith_trim_iff (by decide) l).1 hsection)).trans (if_pos hany)

/-- Any other line is taken for one that selects nothing, and selects nothing. -/
theorem selection_of_not_selects (hopens : ¬ OpensDebug l) (hcloses : ¬ ClosesDebug l) :
    selection (Text.trim l) = .unchanged ∧ selectedName? l = none := by
  have hsection : ¬ sectionDirective <+: directive l := by
    intro h
    by_cases hmark : debugMark <:+: l
    · exact hopens ⟨h, hmark⟩
    · exact hcloses (.inl ⟨h, hmark⟩)
  have hplain : ¬ BeginsLike plainSections l := fun h => hcloses (.inr h)
  constructor
  · exact (if_neg (mt (startsWith_trim_iff (by decide) l).1 hsection)).trans
      (if_neg (mt (any_startsWith_trim_iff (by decide) l).1 hplain))
  · rw [selectedName?, if_neg, if_neg]
    · exact fun h => hplain h.beginsLike
    · exact fun h => hsection (h ▸ List.prefix_rfl)

end Selection

end JitExplorer.Assembly
