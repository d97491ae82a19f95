/-
**Which assembly is left without debug information.**

Of an assembly text, the lines of the program are to be kept: those that lie in no debug section and
have no debug directive.  A line lies in the section that the last line up to it selects, and
directives are words.  The filter reads lines by how they begin, so it loses a line such as
`.local x`, which begins like `.loc`, and the section `.text.debug_x`, which only mentions a debug
section.  There are three ways to misread a line, each of which depends on the section in which the
line stands, and a text is filtered as it should be exactly if no line is misread where it stands.

Main definitions:

* `Assembly.InDebugSection` — a debug section is selected behind some lines;
* `Assembly.programLines` — the lines that are to be kept;
* `Assembly.Misread` — the ways to misread a line behind some lines.

Main results:

* `Assembly.exists_kept_of_not_misread` — a line that is not misread is treated as it should be;
* `Assembly.stripLines_eq_programLines` — without misread lines, the right lines are kept;
* `Assembly.exists_count_ne_of_misread` — a misread line is lost where it is to be kept, or kept
  where it is to be lost;
* `Assembly.strip_eq_program_iff` — **the texts of which exactly the program is left.**
-/

import JitExplorer.Proofs.Filter.Directive

set_option autoImplicit false

namespace JitExplorer.Assembly

/-! ### Sections -/

/-- The name of the section that is selected behind some lines: the last one that any of them
selects. -/
def section? (ls : List (List Char)) : Option (List Char) :=
  (ls.filterMap selectedName?).getLast?

/-- **A debug section is selected behind some lines.** -/
def InDebugSection (ls : List (List Char)) : Prop :=
  ∃ name ∈ section? ls, debugMark <+: name

instance (ls : List (List Char)) : Decidable (InDebugSection ls) :=
  inferInstanceAs (Decidable (∃ name ∈ section? ls, debugMark <+: name))

theorem not_inDebugSection_nil : ¬ InDebugSection [] := by
  rintro ⟨name, h, -⟩
  cases h

/-- A line that selects nothing lies in the section that is selected in front of it. -/
theorem inDebugSection_concat_iff {l : List Char} (h : selectedName? l = none)
    (front : List (List Char)) : InDebugSection (front ++ [l]) ↔ InDebugSection front := by
  simp [InDebugSection, section?, h]

/-! ### The program -/

/-- **The lines behind `front` that belong to the program:** they lie in no debug section and have
no debug directive. -/
def programLines (front : List (List Char)) : List (List Char) → List (List Char)
  | [] => []
  | l :: ls =>
      if InDebugSection (front ++ [l]) ∨ HasDirective debugDirectives l then
        programLines (front ++ [l]) ls
      else l :: programLines (front ++ [l]) ls

theorem programLines_sublist (front ls : List (List Char)) :
    (programLines front ls).Sublist ls := by
  fun_induction programLines front ls with
  | case1 front => exact List.nil_sublist []
  | case2 front l ls hdropped ih => exact ih.cons l
  | case3 front l ls hkept ih => exact ih.cons_cons l

theorem stripLines_sublist (inDebug : Bool) (ls : List (List Char)) :
    (stripLines inDebug ls).Sublist ls := by
  fun_induction stripLines inDebug ls with
  | case1 => exact List.nil_sublist []
  | case2 inDebug l ls trimmed after hdropped ih => exact ih.cons l
  | case3 inDebug l ls trimmed after hkept ih => exact ih.cons_cons l

/-! ### Misread lines -/

/-- **The ways to misread a line behind `front`.** -/
inductive Misread (front : List (List Char)) (l : List Char) : Prop where
  /-- Its directive begins like a debug directive and is another one, and it stands outside of the
  debug sections. -/
  | drops (hlike : BeginsLike debugDirectives l) (hother : ¬ HasDirective debugDirectives l)
      (houtside : ¬ InDebugSection front)
  /-- It looks as if it selected a debug section, and stands outside of these. -/
  | opens (hlike : OpensDebug l) (houtside : ¬ InDebugSection (front ++ [l]))
  /-- It looks as if it selected another section, and stands in a debug section. -/
  | closes (hlike : ClosesDebug l) (hinside : InDebugSection (front ++ [l]))

section Misread

variable {front : List (List Char)} {l : List Char}

/-- The filter follows the sections over a line that is not misread. -/
theorem inDebugAfter_of_not_misread (h : ¬ Misread front l) :
    inDebugAfter (decide (InDebugSection front)) (selection (Text.trim l)) =
      decide (InDebugSection (front ++ [l])) := by
  by_cases hopens : OpensDebug l
  · have hinside : InDebugSection (front ++ [l]) := by_contra fun hout => h (.opens hopens hout)
    rw [selection_of_opensDebug hopens, decide_eq_true hinside, inDebugAfter]
  · by_cases hcloses : ClosesDebug l
    · have hout : ¬ InDebugSection (front ++ [l]) := fun hin => h (.closes hcloses hin)
      rw [selection_of_closesDebug hcloses, decide_eq_false hout, inDebugAfter]
    · obtain ⟨hselection, hname⟩ := selection_of_not_selects hopens hcloses
      rw [hselection, inDebugAfter, decide_eq_decide, inDebugSection_concat_iff hname]

/-- The filter drops a line that is not misread exactly if it is to be dropped. -/
theorem dropped_iff_of_not_misread (h : ¬ Misread front l) :
    (InDebugSection (front ++ [l]) ∨ isDebugDirective (Text.trim l) = true) ↔
      InDebugSection (front ++ [l]) ∨ HasDirective debugDirectives l := by
  rw [isDebugDirective_trim_iff]
  refine ⟨?_, Or.imp_right HasDirective.beginsLike⟩
  rintro (hin | hlike)
  · exact .inl hin
  · by_contra hnone
    obtain ⟨hout, hother⟩ := not_or.1 hnone
    have hopens : ¬ OpensDebug l := fun ho => not_beginsLike_of_selects (.inl ho) hlike
    have hcloses : ¬ ClosesDebug l := fun hc => not_beginsLike_of_selects (.inr hc) hlike
    have hname := (selection_of_not_selects hopens hcloses).2
    exact h (.drops hlike hother ((inDebugSection_concat_iff hname front).not.1 hout))

/-- **A line that is not misread is treated as it should be.** -/
theorem exists_kept_of_not_misread (h : ¬ Misread front l) (ls : List (List Char)) :
    ∃ kept,
      stripLines (decide (InDebugSection front)) (l :: ls) =
          kept ++ stripLines (decide (InDebugSection (front ++ [l]))) ls ∧
        programLines front (l :: ls) = kept ++ programLines (front ++ [l]) ls := by
  have hdropped := dropped_iff_of_not_misread h
  simp only [stripLines, programLines, inDebugAfter_of_not_misread h, Bool.or_eq_true,
    decide_eq_true_eq, hdropped]
  by_cases hdrop : InDebugSection (front ++ [l]) ∨ HasDirective debugDirectives l
  · exact ⟨[], if_pos hdrop, if_pos hdrop⟩
  · exact ⟨[l], if_neg hdrop, if_neg hdrop⟩

/-- **Without misread lines, the right lines are kept.** -/
theorem stripLines_eq_programLines {ls : List (List Char)}
    (h : ∀ before l behind, ls = before ++ l :: behind → ¬ Misread (front ++ before) l) :
    stripLines (decide (InDebugSection front)) ls = programLines front ls := by
  induction ls generalizing front with
  | nil => rfl
  | cons l ls ih =>
      have hl : ¬ Misread front l := by simpa using h [] l ls rfl
      obtain ⟨kept, hstrip, hprogram⟩ := exists_kept_of_not_misread hl ls
      rw [hstrip, hprogram, ih]
      intro before m behind hls
      simpa using h (l :: before) m behind (by rw [hls, List.cons_append])

/-! ### What a misread line does -/

/-- A line that looks as if it selected a debug section, or like a debug directive, is never kept.
-/
theorem notMem_stripLines (h : OpensDebug l ∨ BeginsLike debugDirectives l) (inDebug : Bool)
    (ls : List (List Char)) : l ∉ stripLines inDebug ls := by
  have hdropped : ∀ b, (inDebugAfter b (selection (Text.trim l)) || isDebugDirective (Text.trim l)) =
      true := by
    intro b
    rcases h with h | h
    · rw [selection_of_opensDebug h, inDebugAfter, Bool.true_or]
    · rw [(isDebugDirective_trim_iff l).2 h, Bool.or_true]
  fun_induction stripLines inDebug ls with
  | case1 => exact List.not_mem_nil
  | case2 inDebug m ls trimmed after hm ih => exact ih
  | case3 inDebug m ls trimmed after hm ih =>
      rw [List.mem_cons, not_or]
      refine ⟨?_, ih⟩
      rintro rfl
      exact hm (hdropped inDebug)

/-- A line that looks as if it selected another section is always kept. -/
theorem count_stripLines (h : ClosesDebug l) (inDebug : Bool) (ls : List (List Char)) :
    (stripLines inDebug ls).count l = ls.count l := by
  have hkept : ∀ b, (inDebugAfter b (selection (Text.trim l)) || isDebugDirective (Text.trim l)) =
      false := by
    intro b
    have hdirective : isDebugDirective (Text.trim l) = false :=
      Bool.eq_false_iff.2 fun hd =>
        not_beginsLike_of_selects (.inr h) ((isDebugDirective_trim_iff l).1 hd)
    rw [selection_of_closesDebug h, hdirective, inDebugAfter, Bool.or_false]
  fun_induction stripLines inDebug ls with
  | case1 => rfl
  | case2 inDebug m ls trimmed after hm ih =>
      have hne : m ≠ l := by
        rintro rfl
        cases hm.symm.trans (hkept inDebug)
      rw [ih, List.count_cons_of_ne hne]
  | case3 inDebug m ls trimmed after hm ih => rw [List.count_cons, List.count_cons, ih]

theorem ne_nil_of_beginsLike {directives : List (List Char)} (h : BeginsLike directives l)
    (hne : [] ∉ directives) : l ≠ [] := by
  rintro rfl
  obtain ⟨d, hd, hprefix⟩ := h
  exact hne (List.prefix_nil.1 hprefix ▸ hd)

theorem Misread.ne_nil (h : Misread front l) : l ≠ [] := by
  have hsection : sectionDirective <+: directive l → l ≠ [] := fun hs =>
    ne_nil_of_beginsLike ⟨_, List.mem_singleton_self sectionDirective, hs⟩ (by decide)
  cases h with
  | drops hlike => exact ne_nil_of_beginsLike hlike (by decide)
  | opens hlike => exact hsection hlike.1
  | closes hlike =>
      rcases hlike with hlike | hlike
      · exact hsection hlike.1
      · exact ne_nil_of_beginsLike hlike (by decide)

/-- **A misread line is lost where it is to be kept, or kept where it is to be lost.** -/
theorem Misread.count_ne (h : Misread front l) (ls : List (List Char)) :
    (stripLines (decide (InDebugSection front)) (l :: ls)).count l ≠
      (programLines front (l :: ls)).count l := by
  have hsub := programLines_sublist (front ++ [l]) ls
  cases h with
  | drops hlike hother houtside =>
      have hname : selectedName? l = none := by
        refine (selection_of_not_selects ?_ ?_).2
        · exact fun ho => not_beginsLike_of_selects (.inl ho) hlike
        · exact fun hc => not_beginsLike_of_selects (.inr hc) hlike
      have hout := (inDebugSection_concat_iff hname front).not.2 houtside
      rw [List.count_eq_zero.2 (notMem_stripLines (.inr hlike) _ _), programLines,
        if_neg (not_or.2 ⟨hout, hother⟩), List.count_cons_self]
      exact (Nat.succ_ne_zero _).symm
  | opens hlike houtside =>
      have hother : ¬ HasDirective debugDirectives l := fun hd =>
        not_beginsLike_of_selects (.inl hlike) hd.beginsLike
      rw [List.count_eq_zero.2 (notMem_stripLines (.inl hlike) _ _), programLines,
        if_neg (not_or.2 ⟨houtside, hother⟩), List.count_cons_self]
      exact (Nat.succ_ne_zero _).symm
  | closes hlike hinside =>
      rw [count_stripLines hlike, programLines, if_pos (.inl hinside), List.count_cons_self]
      have hle := hsub.count_le l
      omega

/-- Some line is lost or kept wrongly if any line is misread. -/
theorem exists_count_ne_of_misread {ls before behind : List (List Char)}
    (hls : ls = before ++ l :: behind) (h : Misread (front ++ before) l) :
    ∃ m, m ≠ [] ∧ (stripLines (decide (InDebugSection front)) ls).count m ≠
      (programLines front ls).count m := by
  induction ls generalizing front before with
  | nil => simp at hls
  | cons k ls ih =>
      by_cases hk : Misread front k
      · exact ⟨k, hk.ne_nil, hk.count_ne ls⟩
      · -- The first line is treated as it should be, so the difference is one of the lines behind it.
        cases before with
        | nil =>
            obtain ⟨rfl, -⟩ := List.cons.inj hls
            exact absurd (by simpa using h) hk
        | cons b before =>
            obtain ⟨rfl, htail⟩ := List.cons.inj hls
            have hmisread : Misread (front ++ [k] ++ before) l := by simpa using h
            obtain ⟨m, hm, hcount⟩ := ih htail hmisread
            obtain ⟨kept, hstrip, hprogram⟩ := exists_kept_of_not_misread hk ls
            refine ⟨m, hm, ?_⟩
            rw [hstrip, hprogram, List.count_append, List.count_append]
            omega

end Misread

/-! ### Texts -/

/-- Texts that are joined from lines without newlines hold the same lines, empty ones apart. -/
theorem count_eq_of_joinWith_eq {ls ms : List (List Char)} (hls : ∀ l ∈ ls, '\n' ∉ l)
    (hms : ∀ l ∈ ms, '\n' ∉ l) (h : Text.joinWith ['\n'] ls = Text.joinWith ['\n'] ms)
    {l : List Char} (hl : l ≠ []) : ls.count l = ms.count l := by
  have hempty : List.count l [[]] = List.count l [] :=
    List.count_cons_of_ne hl.symm
  rcases (Text.joinWith_newline_eq_iff hls hms).1 h with rfl | ⟨rfl, rfl⟩ | ⟨rfl, rfl⟩
  · rfl
  · exact hempty
  · exact hempty.symm

theorem newline_notMem_of_sublist {s : List Char} {ls : List (List Char)}
    (h : ls.Sublist (Text.displayLines s)) : ∀ l ∈ ls, '\n' ∉ l := by
  intro l hl hnewline
  have hbreak := Text.not_isBreak_of_mem_displayLines (h.subset hl) _ hnewline
  revert hbreak
  decide

/-- **The texts of which exactly the program is left.**  What is left of a text are the lines of the
program, in order and as they are, exactly if no line of the text is misread where it stands. -/
theorem strip_eq_program_iff (s : List Char) :
    strip s = Text.joinWith ['\n'] (programLines [] (Text.displayLines s)) ++ ['\n'] ↔
      ∀ front l back, Text.displayLines s = front ++ l :: back → ¬ Misread front l := by
  have hfresh : decide (InDebugSection []) = false := decide_eq_false not_inDebugSection_nil
  have hstrip : strip s = Text.joinWith ['\n']
      (stripLines (decide (InDebugSection [])) (Text.displayLines s)) ++ ['\n'] := by
    rw [hfresh, strip]
  rw [hstrip, List.append_left_inj]
  constructor
  · intro h front l back hlines hmisread
    have hbehind : Misread ([] ++ front) l := hmisread
    obtain ⟨m, hm, hcount⟩ := exists_count_ne_of_misread hlines hbehind
    exact hcount (count_eq_of_joinWith_eq (newline_notMem_of_sublist (stripLines_sublist _ _))
      (newline_notMem_of_sublist (programLines_sublist _ _)) h hm)
  · intro h
    have hnone : ∀ front l back, Text.displayLines s = front ++ l :: back →
        ¬ Misread ([] ++ front) l := h
    rw [stripLines_eq_programLines hnone]

/-- A text without debug information that declares a local symbol. -/
def localSymbolText : List Char :=
  "\t.local\tcounter\n\t.comm\tcounter,4,4\n".toList

/-- The declaration of a local symbol is lost from a text without debug information. -/
theorem exists_lost_localSymbol :
    ∃ s : List Char, (∀ c ∈ s, Text.isBreak c = true → c = '\n') ∧
      Text.joinWith ['\n'] (programLines [] (Text.displayLines s)) ++ ['\n'] = s ∧
      strip s = "\t.comm\tcounter,4,4\n".toList ∧ strip s ≠ s := by
  have hbreaks : localSymbolText.all (fun c => !Text.isBreak c || c == '\n') = true := by
    decide +kernel
  refine ⟨localSymbolText, fun c hc hbreak => ?_, by decide +kernel, by decide +kernel,
    by decide +kernel⟩
  simpa [hbreak] using List.all_eq_true.1 hbreaks c hc

end JitExplorer.Assembly
