/-
**Debug information that was added is taken out again.**

A compiler adds debug information to a text in five ways: calls of debug intrinsics, debug metadata
with a name, nodes with numbers of their own, attachments at the ends of lines, and attachments in
front of an opening brace.  However many such changes are made, the text without debug information
stays what it was.  Nodes that were added may refer to anything, also to each other: nothing that
was there before refers to them, so they are not live.

Main definitions:

* `Metadata.Change` — one change, as a relation between the lines before and after it;
* `Metadata.Apart` — no attachment lies across the seam of two texts;
* `Metadata.isNative` — a line is code, or the node of a number that was referred to before;
* `Metadata.HoldsNative` — the native lines are the lines that were there before;
* `Metadata.IsInstrumented` — the same for the lines of a text.

Main results:

* `Metadata.Erases.append` — texts without an attachment across their seam are erased one by one;
* `Metadata.ofText?_attached`, `Metadata.ofText?_braced` — a line with an attachment is taken for
  what it was;
* `Metadata.IsInstrumented.change` — a change leaves the native lines as they are;
* `Metadata.HoldsNative.keptLines_eq` — foreign nodes are not kept, and nothing else is lost with
  them;
* `Metadata.strip_instrumented` — **stripping takes out what was added.**
-/

import JitExplorer.Proofs.Filter.Reachable
import Mathlib.Logic.Relation

set_option autoImplicit false

namespace JitExplorer.Metadata

/-! ### Seams -/

/-- No attachment lies across the seam of two texts. -/
def Apart (p q : List Char) : Prop :=
  ∀ x y r, x ≠ [] → y ≠ [] → x <:+ p → q = y ++ r → ¬ IsAttachment (x ++ y)

theorem Apart.of_suffix {p s q : List Char} (h : Apart p q) (hs : s <:+ p) : Apart s q :=
  fun x y r hx hy hxs hq => h x y r hx hy (hxs.trans hs) hq

/-- One more digit makes an attachment longer. -/
theorem IsAttachment.append_digit {a : List Char} (h : IsAttachment a) {d : Char}
    (hd : Text.isDigit d = true) : IsAttachment (a ++ [d]) := by
  obtain ⟨comma, n, hcomma, hn, rfl⟩ := h
  refine ⟨comma, n ++ [d], hcomma, ⟨by simp, ?_⟩, by simp⟩
  intro c hc
  rcases List.mem_append.1 hc with hc | hc
  · exact hn.isDigit c hc
  · exact List.mem_singleton.1 hc ▸ hd

/-- **Texts without an attachment across their seam are erased one by one.** -/
theorem Erases.append {p q t u : List Char} (hp : Erases p t) (hq : Erases q u)
    (h : Apart p q) : Erases (p ++ q) (t ++ u) := by
  induction hp with
  | nil => exact hq
  | @attachment a s t ha hs hst ih =>
      have hseam : StartsNoDigit (s ++ q) := by
        cases s with
        | cons c s => exact hs
        | nil =>
            intro d hd
            by_contra hdigit
            obtain ⟨r, rfl⟩ := List.head?_eq_some_iff.1 hd
            exact h a [d] r (isAttachment_ne_nil ha) (by simp) (by simp) rfl
              (ha.append_digit (by simpa using hdigit))
      rw [List.append_assoc]
      exact .attachment ha hseam (ih (h.of_suffix (List.suffix_append a s)))
  | @char c s t hs hst ih =>
      refine .char ?_ (ih (h.of_suffix (List.suffix_cons c s)))
      intro a r hsplit ha
      change (c :: s) ++ q = a ++ r at hsplit
      obtain ⟨y, rfl, hq⟩ | ⟨y, hc, rfl⟩ := List.append_eq_append_iff.1 hsplit
      · by_cases hy : y = []
        · subst hy
          exact hs (c :: s) [] (by simp) (by simpa using ha)
        · exact h (c :: s) y r (by simp) hy List.suffix_rfl hq ha
      · exact hs a y hc ha

/-- A text ends in a digit. -/
def EndsInDigit (s : List Char) : Prop :=
  ∃ c ∈ s.getLast?, Text.isDigit c = true

theorem EndsInDigit.mem {s : List Char} (h : EndsInDigit s) :
    ∃ c ∈ s, Text.isDigit c = true := by
  obtain ⟨c, hc, hdigit⟩ := h
  exact ⟨c, List.mem_of_getLast? hc, hdigit⟩

theorem IsAttachment.endsInDigit {x y : List Char} (h : IsAttachment (x ++ y)) (hy : y ≠ []) :
    EndsInDigit y := by
  obtain ⟨comma, n, -, hn, heq⟩ := h
  have hlast : (x ++ y).getLast? = some (n.getLast hn.ne_nil) := by
    rw [heq, List.getLast?_append_of_ne_nil _ (by simp [hn.ne_nil]),
      List.getLast?_append_of_ne_nil _ hn.ne_nil, List.getLast?_eq_getLast_of_ne_nil hn.ne_nil]
  rw [List.getLast?_append_of_ne_nil _ hy] at hlast
  exact ⟨_, hlast, hn.isDigit _ (List.getLast_mem hn.ne_nil)⟩

/-- No attachment goes on into a text without digits. -/
theorem apart_of_forall_not_isDigit (p : List Char) {q : List Char}
    (hq : ∀ c ∈ q, Text.isDigit c = false) : Apart p q := by
  rintro x y r - hy - rfl ha
  obtain ⟨c, hc, hdigit⟩ := (ha.endsInDigit hy).mem
  rw [hq c (List.mem_append_left r hc)] at hdigit
  cases hdigit

/-- A number at the end of a text is determined by the text if no digit stands in front of it. -/
theorem append_number_inj {u v n m : List Char} (hn : ∀ c ∈ n, Text.isDigit c = true)
    (hm : ∀ c ∈ m, Text.isDigit c = true) (hu : ¬ EndsInDigit u) (hv : ¬ EndsInDigit v)
    (h : u ++ n = v ++ m) : u = v := by
  have hdrop : ∀ {w k : List Char}, ¬ EndsInDigit w → (∀ c ∈ k, Text.isDigit c = true) →
      ((w ++ k).reverse.dropWhile Text.isDigit).reverse = w := by
    intro w k hw hk
    rw [List.reverse_append, List.dropWhile_append_of_pos (by simpa using hk)]
    rcases List.eq_nil_or_concat w with rfl | ⟨w, c, rfl⟩
    · rfl
    · have hc : Text.isDigit c = false := by
        by_contra hc
        exact hw ⟨c, by simp, by simpa using hc⟩
      simp [hc]
  rw [← hdrop hu hn, h, hdrop hv hm]

theorem not_isDigit_of_mem_attachmentMark {c : Char} (h : c ∈ attachmentMark) :
    Text.isDigit c = false := by
  have hall : attachmentMark.all (fun c => !Text.isDigit c) = true := by decide
  simpa using List.all_eq_true.1 hall c h

theorem not_endsInDigit_append_attachmentMark (s : List Char) :
    ¬ EndsInDigit (s ++ attachmentMark) := by
  rintro ⟨c, hc, hdigit⟩
  rw [List.getLast?_append_of_ne_nil _ (by decide)] at hc
  rw [not_isDigit_of_mem_attachmentMark (List.mem_of_getLast? hc)] at hdigit
  cases hdigit

/-- A part of an attachment with a text behind it that ends in a digit ends in the number. -/
theorem exists_number_of_append {comma n rest y r : List Char} (hcomma : IsComma comma)
    (hn : IsNumber n) (hrest : ∀ c ∈ rest, Text.isDigit c = false) (hy : EndsInDigit y)
    (h : comma ++ (attachmentMark ++ (n ++ rest)) = y ++ r) :
    ∃ m, (∀ c ∈ m, Text.isDigit c = true) ∧ y = comma ++ attachmentMark ++ m := by
  have hfront : ∀ c ∈ comma ++ attachmentMark, Text.isDigit c = false := by
    intro c hc
    rcases List.mem_append.1 hc with hc | hc
    · rcases hcomma with rfl | rfl
      · cases hc
      · exact List.mem_singleton.1 hc ▸ (by decide)
    · exact not_isDigit_of_mem_attachmentMark hc
  rw [← List.append_assoc] at h
  obtain ⟨m, rfl, hm⟩ | ⟨m, hm, -⟩ := List.append_eq_append_iff.1 h
  · refine ⟨m, ?_, rfl⟩
    obtain ⟨k, rfl, hk⟩ | ⟨k, rfl, -⟩ := List.append_eq_append_iff.1 hm
    · -- The part reaches into the text behind the number only by nothing.
      have hknil : k = [] := by
        by_contra hne
        obtain ⟨c, hc, hdigit⟩ := hy
        rw [← List.append_assoc, List.getLast?_append_of_ne_nil _ hne] at hc
        have hmem : c ∈ rest := hk ▸ List.mem_append_left r (List.mem_of_getLast? hc)
        rw [hrest c hmem] at hdigit
        cases hdigit
      simpa [hknil] using hn.isDigit
    · exact fun c hc => hn.isDigit c (List.mem_append_left k hc)
  · obtain ⟨c, hc, hdigit⟩ := hy.mem
    rw [hfront c (hm ▸ List.mem_append_left m hc)] at hdigit
    cases hdigit

/-- An attachment is apart from the text in front of it if that has no comma for it. -/
theorem apart_attachment {p comma n rest : List Char} (hcomma : IsComma comma) (hn : IsNumber n)
    (hrest : ∀ c ∈ rest, Text.isDigit c = false)
    (h : ∀ x, x ≠ [] → x <:+ p → ¬ IsComma (x ++ comma)) :
    Apart p (comma ++ (attachmentMark ++ (n ++ rest))) := by
  intro x y r hx hy hxp hq ha
  obtain ⟨m, hm, rfl⟩ := exists_number_of_append hcomma hn hrest (ha.endsInDigit hy) hq
  obtain ⟨other, k, hother, hk, heq⟩ := ha
  have hfront : x ++ comma ++ attachmentMark = other ++ attachmentMark :=
    append_number_inj hm hk.isDigit (not_endsInDigit_append_attachmentMark _)
      (not_endsInDigit_append_attachmentMark _) (by simpa using heq)
  exact h x hx hxp (List.append_cancel_right hfront ▸ hother)

/-- **An attachment is erased again,** wherever it is put in front of a text without digits, if
there is no comma for it. -/
theorem eraseAttachments_attachment {p comma n rest : List Char} (hcomma : IsComma comma)
    (hn : IsNumber n) (hrest : ∀ c ∈ rest, Text.isDigit c = false)
    (h : ∀ x, x ≠ [] → x <:+ p → ¬ IsComma (x ++ comma)) :
    eraseAttachments (p ++ (comma ++ (attachmentMark ++ (n ++ rest)))) =
      eraseAttachments (p ++ rest) := by
  have hp := erases_eraseAttachments p
  have hr := erases_eraseAttachments rest
  have hstart : StartsNoDigit rest := fun c hc => hrest c (List.mem_of_mem_head? hc)
  have ha : Erases (comma ++ (attachmentMark ++ (n ++ rest))) (eraseAttachments rest) := by
    have herases := Erases.attachment ⟨comma, n, hcomma, hn, rfl⟩ hstart hr
    simpa only [List.append_assoc] using herases
  rw [(hp.append ha (apart_attachment hcomma hn hrest h)).eraseAttachments_eq,
    (hp.append hr (apart_of_forall_not_isDigit p hrest)).eraseAttachments_eq]

/-! ### Lines that are taken for the same -/

/-- How a line starts that defines something. -/
def definitionStart (w : List Char) : List Char :=
  '!' :: (w ++ definitionMark)

theorem isNode_iff_starts (n l : List Char) :
    IsNode n l ↔ IsNumber n ∧ definitionStart n <+: l := by
  simp [IsNode, definitionStart, List.IsPrefix, eq_comm]

theorem isNamed_iff_starts (name l : List Char) :
    IsNamed name l ↔ IsName name ∧ definitionStart name <+: l := by
  simp [IsNamed, definitionStart, List.IsPrefix, eq_comm]

/-- The characters that may be defined hold no space and no comma. -/
theorem IsNumber.notMem {n : List Char} (h : IsNumber n) : ' ' ∉ n ∧ ',' ∉ n := by
  constructor
  · intro hc
    exact absurd (h.isDigit _ hc) (by decide)
  · intro hc
    exact absurd (h.isDigit _ hc) (by decide)

theorem IsName.notMem {name : List Char} (h : IsName name) : ' ' ∉ name ∧ ',' ∉ name := by
  cases name with
  | nil => exact h.elim
  | cons c s =>
      obtain ⟨hstart, hrest⟩ := h
      constructor
      · intro hc
        rcases List.mem_cons.1 hc with rfl | hc
        · exact absurd hstart (by decide)
        · exact absurd (hrest _ hc) (by decide)
      · intro hc
        rcases List.mem_cons.1 hc with rfl | hc
        · exact absurd hstart (by decide)
        · exact absurd (hrest _ hc) (by decide)

/-- Two lines start with the same definition, if they start with one, and both call a debug
intrinsic or neither does. -/
structure Alike (l k : List Char) : Prop where
  definition : ∀ w, ' ' ∉ w → ',' ∉ w → (definitionStart w <+: l ↔ definitionStart w <+: k)
  intrinsic : intrinsicMark <:+: l ↔ intrinsicMark <:+: k

namespace Alike

variable {l k : List Char}

theorem isNode_iff (h : Alike l k) (n : List Char) : IsNode n l ↔ IsNode n k := by
  rw [isNode_iff_starts, isNode_iff_starts]
  exact and_congr_right fun hn => h.definition n hn.notMem.1 hn.notMem.2

theorem isNamed_iff (h : Alike l k) (name : List Char) : IsNamed name l ↔ IsNamed name k := by
  rw [isNamed_iff_starts, isNamed_iff_starts]
  exact and_congr_right fun hname => h.definition name hname.notMem.1 hname.notMem.2

theorem isCode_iff (h : Alike l k) : IsCode l ↔ IsCode k :=
  forall_congr' fun n => not_congr (h.isNode_iff n)

theorem isDebugLine_iff (h : Alike l k) : IsDebugLine l ↔ IsDebugLine k := by
  have hmark : ∀ s : List Char, (∃ a r, s = a ++ intrinsicMark ++ r) ↔ intrinsicMark <:+: s := by
    intro s
    simp only [List.IsInfix, eq_comm]
  unfold IsDebugLine
  rw [hmark, hmark, h.intrinsic]
  exact or_congr_right (exists_congr fun name => and_congr_left' (h.isNamed_iff name))

/-- **Code is taken for the same as a line alike** if the same is left of it without its
attachments. -/
theorem ofText?_eq (h : Alike l k) (hl : IsCode l)
    (herased : eraseAttachments l = eraseAttachments k) : Line.ofText? l = Line.ofText? k := by
  by_cases hdebug : IsDebugLine l
  · rw [ofText?_of_isDebugLine hdebug, ofText?_of_isDebugLine (h.isDebugLine_iff.1 hdebug)]
  · rw [ofText?_of_isCode hdebug hl (erases_eraseAttachments l),
      ofText?_of_isCode (mt h.isDebugLine_iff.2 hdebug) (h.isCode_iff.1 hl)
        (erases_eraseAttachments k), herased]

end Alike

theorem prefix_append_cons_iff {p : List Char} {c : Char} (hp : c ∉ p) (l q : List Char) :
    p <+: l ++ c :: q ↔ p <+: l := by
  constructor
  · rintro ⟨r, h⟩
    obtain ⟨x, rfl, -⟩ | ⟨x, rfl, hx⟩ := List.append_eq_append_iff.1 h
    · exact List.prefix_append p x
    · cases x with
      | nil => simp
      | cons d x =>
          obtain ⟨rfl, -⟩ := List.cons.inj hx
          exact absurd (by simp) hp
  · exact fun h => h.trans (List.prefix_append l _)

/-- A text without a character stands in front of that character or behind it. -/
theorem infix_append_cons_iff {m : List Char} {c : Char} (hm : c ∉ m) (l q : List Char) :
    m <:+: l ++ c :: q ↔ m <:+: l ∨ m <:+: q := by
  induction l with
  | nil =>
      have hfront : m <+: c :: q ↔ m <:+: [] := by
        rw [List.infix_nil, ← List.prefix_nil]
        exact prefix_append_cons_iff hm [] q
      rw [List.nil_append, List.infix_cons_iff, hfront]
  | cons d l ih =>
      have hfront : m <+: d :: (l ++ c :: q) ↔ m <+: d :: l := prefix_append_cons_iff hm (d :: l) q
      rw [List.cons_append, List.infix_cons_iff, List.infix_cons_iff, ih, hfront, or_assoc]

/-- No call of a debug intrinsic stands in a text without an at sign. -/
theorem not_holds_intrinsicMark {q : List Char} (hq : '@' ∉ q) : ¬ intrinsicMark <:+: q :=
  fun h => hq (h.subset (by decide))

/-- What stands behind a space does not matter for the definition that a line starts with, unless it
is an equals sign. -/
theorem definitionStart_prefix_iff {w : List Char} (hw : ' ' ∉ w) {d : Char} (hd : d ≠ '=')
    (l q : List Char) :
    definitionStart w <+: l ++ ' ' :: d :: q ↔ definitionStart w <+: l ++ [' '] := by
  constructor
  · rintro ⟨r, h⟩
    have hsplit : ('!' :: w) ++ ' ' :: '=' :: ' ' :: r = l ++ ' ' :: d :: q := by
      simpa [definitionStart, definitionMark] using h
    obtain ⟨x, rfl, hx⟩ | ⟨x, hu, hx⟩ := List.append_eq_append_iff.1 hsplit
    · -- The space is one of the mark, which is its last one, or stands behind the mark.
      rcases x with _ | ⟨e, _ | ⟨f, _ | ⟨g, x⟩⟩⟩
      · exact absurd (by simpa using hx : '=' = d ∧ _).1.symm hd
      · simp at hx
      · obtain ⟨rfl, rfl, -⟩ : ' ' = e ∧ '=' = f ∧ _ := by simpa using hx
        simp [definitionStart, definitionMark]
      · obtain ⟨rfl, rfl, rfl, -⟩ : ' ' = e ∧ '=' = f ∧ ' ' = g ∧ _ := by simpa using hx
        exact ⟨x ++ [' '], by simp [definitionStart, definitionMark]⟩
    · cases x with
      | nil => exact absurd (by simpa using hx : d = '=' ∧ _).1 hd
      | cons e x =>
          obtain ⟨rfl, -⟩ := List.cons.inj hx
          have hmem : ' ' ∈ '!' :: w := hu ▸ by simp
          exact absurd hmem (by simpa using hw)
  · rintro h
    exact h.trans ⟨d :: q, by simp⟩

/-- A number holds no at sign. -/
theorem IsNumber.at_notMem {n : List Char} (h : IsNumber n) : '@' ∉ n :=
  fun hc => absurd (h.isDigit _ hc) (by decide)

/-- An attachment with a comma at the end of a line. -/
def attached (l n : List Char) : List Char :=
  l ++ ([','] ++ (attachmentMark ++ n))

/-- The opening brace at the end of a line. -/
def braceMark : List Char := " \x7b".toList

theorem not_isDigit_of_mem_braceMark {c : Char} (h : c ∈ braceMark) : Text.isDigit c = false := by
  have hall : braceMark.all (fun c => !Text.isDigit c) = true := by decide
  simpa using List.all_eq_true.1 hall c h

/-- An attachment without a comma in front of the opening brace of a line. -/
def braced (l n : List Char) : List Char :=
  l ++ (attachmentMark ++ (n ++ braceMark))

/-- **A line with an attachment at its end is taken for what it was.** -/
theorem ofText?_attached {l n : List Char} (hl : IsCode l) (hn : IsNumber n) :
    Line.ofText? (attached l n) = Line.ofText? l := by
  have halike : Alike l (attached l n) := by
    constructor
    · intro w _ hw
      refine (prefix_append_cons_iff (c := ',') ?_ l _).symm
      simp [definitionStart, definitionMark, hw]
    · have hmark : '@' ∉ attachmentMark ++ n := by
        simp [hn.at_notMem, (by decide : '@' ∉ attachmentMark)]
      exact ((infix_append_cons_iff (by decide) l _).trans
        (or_iff_left (not_holds_intrinsicMark hmark))).symm
  have hcomma : ∀ x, x ≠ [] → x <:+ l → ¬ IsComma (x ++ [',']) := by
    rintro x hx - (h | h)
    · simp at h
    · exact hx (by simpa using h)
  have hnone : ∀ c ∈ ([] : List Char), Text.isDigit c = false := by simp
  refine (halike.ofText?_eq hl ?_).symm
  simpa [attached] using (eraseAttachments_attachment (.inr rfl) hn hnone hcomma).symm

/-- **A line with an attachment in front of its brace is taken for what it was.** -/
theorem ofText?_braced {l n : List Char} (hl : IsCode (l ++ braceMark)) (hn : IsNumber n)
    (hcomma : l.getLast? ≠ some ',') :
    Line.ofText? (braced l n) = Line.ofText? (l ++ braceMark) := by
  have halike : Alike (l ++ braceMark) (braced l n) := by
    constructor
    · intro w hw _
      exact (definitionStart_prefix_iff hw (by decide) l []).trans
        (definitionStart_prefix_iff hw (d := '!') (by decide) l _).symm
    · have hmark : '@' ∉ "!dbg !".toList ++ (n ++ braceMark) := by
        simp [hn.at_notMem, (by decide : '@' ∉ braceMark)]
      exact ((infix_append_cons_iff (by decide) l _).trans
        (or_iff_left (not_holds_intrinsicMark (by decide)))).trans
        ((infix_append_cons_iff (by decide) l _).trans
          (or_iff_left (not_holds_intrinsicMark hmark))).symm
  refine (halike.ofText?_eq hl ?_).symm
  refine (eraseAttachments_attachment (p := l) (.inl rfl) hn
    (fun _ => not_isDigit_of_mem_braceMark) ?_).symm
  rintro x hx ⟨front, rfl⟩ (h | h)
  · exact hx (by simpa using h)
  · rw [List.append_nil] at h
    exact hcomma (by simp [h])

/-! ### Changes -/

/-- A line holds no line break. -/
def IsUnbroken (l : List Char) : Prop :=
  ∀ c ∈ l, Text.isBreak c = false

instance : DecidablePred IsUnbroken := fun l =>
  List.decidableBAll (fun c => Text.isBreak c = false) l

/-- The text of some lines: they are joined, and a newline ends the last one. -/
def textOf (lines : List (List Char)) : List Char :=
  Text.joinWith ['\n'] lines ++ ['\n']

/-- **One change of the lines of a text,** of which the lines without any debug information are
given.  An attachment is only added to a line that is no numbered node. -/
inductive Change (source : List (List Char)) : List (List Char) → List (List Char) → Prop where
  /-- A call of a debug intrinsic is inserted. -/
  | intrinsic (front back : List (List Char)) {l : List Char} (hl : IsUnbroken l)
      (h : intrinsicMark <:+: l) : Change source (front ++ back) (front ++ l :: back)
  /-- Debug metadata with a name is inserted. -/
  | named (front back : List (List Char)) {name l : List Char} (hl : IsUnbroken l)
      (h : IsNamed name l) (hname : debugName <+: name) :
      Change source (front ++ back) (front ++ l :: back)
  /-- A node is inserted, of which the number is neither defined nor referred to by a given line. -/
  | node (front back : List (List Char)) {n l : List Char} (hl : IsUnbroken l) (h : IsNode n l)
      (hn : ∀ k ∈ source, ¬ IsNode n k ∧ ¬ RefersTo k n) :
      Change source (front ++ back) (front ++ l :: back)
  /-- An attachment is put at the end of a line. -/
  | attached (front back : List (List Char)) {l n : List Char} (hl : IsCode l) (hn : IsNumber n) :
      Change source (front ++ l :: back) (front ++ attached l n :: back)
  /-- An attachment is put in front of the opening brace at the end of a line. -/
  | braced (front back : List (List Char)) {l n : List Char} (hl : IsCode (l ++ braceMark))
      (hn : IsNumber n) (hcomma : l.getLast? ≠ some ',') :
      Change source (front ++ (l ++ braceMark) :: back) (front ++ braced l n :: back)

/-! ### Native lines -/

/-- A number is native if the lines that are given refer to it. -/
def isNativeNumber (source : List (List Char)) (n : List Char) : Bool :=
  source.any fun l => (references l).contains n

/-- A line is native if it is code, or the node of a native number. -/
def isNative (source : List (List Char)) : Line → Bool
  | .node n _ => isNativeNumber source n
  | .code _ => true

theorem isNativeNumber_iff (source : List (List Char)) (n : List Char) :
    isNativeNumber source n = true ↔ ∃ l ∈ source, RefersTo l n := by
  simp [isNativeNumber, ← mem_references_iff]

theorem IsAttachment.startsNoDigit {a : List Char} (h : IsAttachment a) (s : List Char) :
    StartsNoDigit (a ++ s) := by
  obtain ⟨comma, n, rfl | rfl, -, rfl⟩ := h
  · rintro c ⟨⟩
    decide
  · rintro c ⟨⟩
    decide

/-- Erasing brings no digits to the front of a text. -/
theorem Erases.takeWhile_eq {s t : List Char} (h : Erases s t) :
    t.takeWhile Text.isDigit = s.takeWhile Text.isDigit := by
  induction h with
  | nil => rfl
  | attachment ha hs _ ih =>
      rw [ih, takeWhile_of_startsNoDigit hs, takeWhile_of_startsNoDigit (ha.startsNoDigit _)]
  | char _ _ ih => rw [List.takeWhile_cons, List.takeWhile_cons, ih]

/-- What is left of a line without its attachments refers only to what the line refers to. -/
theorem Erases.refersTo {s t n : List Char} (h : Erases s t) (hn : RefersTo t n) :
    RefersTo s n := by
  induction h with
  | nil => exact hn
  | @attachment a s t _ _ _ ih =>
      obtain ⟨hnumber, b, r, hs, hr⟩ := ih hn
      exact ⟨hnumber, a ++ b, r, by rw [hs, List.append_assoc], hr⟩
  | @char c s t _ h ih =>
      rw [refersTo_cons_iff] at hn ⊢
      rw [← h.takeWhile_eq]
      exact hn.imp_right ih

section Source

variable {source : List (List Char)} {line : Line}

/-- The given lines refer to native numbers only. -/
theorem isNativeNumber_of_references (hline : line ∈ source.filterMap Line.ofText?) {n : List Char}
    (hn : n ∈ references line.text) : isNativeNumber source n = true := by
  obtain ⟨l, hl, hof⟩ := List.mem_filterMap.1 hline
  rw [mem_references_iff] at hn
  refine (isNativeNumber_iff source n).2 ⟨l, hl, ?_⟩
  obtain ⟨m, -, rfl⟩ | ⟨-, t, ht, rfl⟩ := exists_of_ofText?_eq_some hof
  · exact hn
  · exact ht.refersTo hn

/-- The given lines are native. -/
theorem isNative_of_mem (hline : line ∈ source.filterMap Line.ofText?) :
    isNative source line = true := by
  obtain ⟨l, hl, hof⟩ := List.mem_filterMap.1 hline
  obtain ⟨n, hn, rfl⟩ | ⟨-, t, -, rfl⟩ := exists_of_ofText?_eq_some hof
  · exact (isNativeNumber_iff source n).2 ⟨l, hl, hn.refersTo⟩
  · rfl

end Source

/-! ### Foreign nodes -/

section Lines

variable {lines : List Line}

theorem mem_codeReferences {n : List Char} (h : n ∈ codeReferences lines) :
    ∃ t, .code t ∈ lines ∧ n ∈ references t := by
  induction lines with
  | nil => cases h
  | cons line lines ih =>
      cases line with
      | node m t =>
          obtain ⟨u, hu, hn⟩ := ih h
          exact ⟨u, List.mem_cons_of_mem _ hu, hn⟩
      | code t =>
          rcases List.mem_append.1 h with hn | h
          · exact ⟨t, List.mem_cons_self, hn⟩
          · obtain ⟨u, hu, hn⟩ := ih h
            exact ⟨u, List.mem_cons_of_mem _ hu, hn⟩

/-- A node is made of a line that defines its number. -/
theorem exists_of_mem_nodes {node : Node} (h : node ∈ nodes lines) :
    ∃ t, .node node.number t ∈ lines ∧ node.references = references t := by
  induction lines with
  | nil => cases h
  | cons line lines ih =>
      have hrest : node ∈ nodes lines →
          ∃ t, .node node.number t ∈ line :: lines ∧ node.references = references t := by
        intro h
        obtain ⟨t, ht, hreferences⟩ := ih h
        exact ⟨t, List.mem_cons_of_mem _ ht, hreferences⟩
      cases line with
      | code t => exact hrest h
      | node n t =>
          rw [nodes] at h
          split at h
          · exact hrest h
          · rcases List.mem_cons.1 h with rfl | h
            · exact ⟨t, List.mem_cons_self, rfl⟩
            · exact hrest h

/-- A line that defines a number makes a node of it. -/
theorem exists_mem_nodes {n t : List Char} (h : .node n t ∈ lines) :
    ∃ node ∈ nodes lines, node.number = n := by
  induction lines with
  | nil => cases h
  | cons line lines ih =>
      cases line with
      | code u =>
          rcases List.mem_cons.1 h with h | h
          · cases h
          · exact ih h
      | node m u =>
          rw [nodes]
          split
          · rename_i hany
            rcases List.mem_cons.1 h with h | h
            · cases h
              simpa using hany
            · exact ih h
          · rcases List.mem_cons.1 h with h | h
            · cases h
              exact ⟨_, List.mem_cons_self, rfl⟩
            · obtain ⟨node, hnode, hnumber⟩ := ih h
              exact ⟨node, List.mem_cons_of_mem _ hnode, hnumber⟩

variable (source : List (List Char))

theorem codeReferences_filter (lines : List Line) :
    codeReferences (lines.filter (isNative source)) = codeReferences lines := by
  induction lines with
  | nil => rfl
  | cons line lines ih =>
      cases line with
      | code t => rw [List.filter_cons_of_pos rfl, codeReferences, codeReferences, ih]
      | node n t =>
          rw [codeReferences, ← ih, List.filter_cons]
          split
          · rfl
          · rfl

/-- The nodes of the native lines are the native nodes. -/
theorem nodes_filter (lines : List Line) :
    nodes (lines.filter (isNative source)) =
      (nodes lines).filter fun node => isNativeNumber source node.number := by
  induction lines with
  | nil => rfl
  | cons line lines ih =>
      cases line with
      | code t => rw [List.filter_cons_of_pos rfl, nodes, nodes, ih]
      | node n t =>
          by_cases hn : isNativeNumber source n = true
          · -- A native number that is defined again is defined again by a native line.
            have hany : ((nodes lines).filter fun node => isNativeNumber source node.number).any
                (fun node => node.number == n) =
                (nodes lines).any fun node => node.number == n := by
              rw [List.any_filter]
              refine List.any_congr rfl fun node => ?_
              by_cases hnode : node.number = n
              · simp [hnode, hn]
              · simp [hnode]
            rw [List.filter_cons_of_pos (by exact hn), nodes, nodes, ih, hany]
            split
            · rfl
            · rw [List.filter_cons_of_pos (by exact hn)]
          · rw [List.filter_cons_of_neg (by exact hn), nodes, ih]
            split
            · rfl
            · rw [List.filter_cons_of_neg (by exact hn)]

end Lines

/-- The native lines of some lines are the lines that are given. -/
def HoldsNative (source : List (List Char)) (lines : List Line) : Prop :=
  lines.filter (isNative source) = source.filterMap Line.ofText?

namespace HoldsNative

variable {source : List (List Char)} {lines : List Line}

theorem mem_nodes_iff (h : HoldsNative source lines) (node : Node) :
    node ∈ nodes (source.filterMap Line.ofText?) ↔
      node ∈ nodes lines ∧ isNativeNumber source node.number = true := by
  rw [← h, nodes_filter, List.mem_filter]

theorem codeReferences_eq (h : HoldsNative source lines) :
    codeReferences (source.filterMap Line.ofText?) = codeReferences lines := by
  rw [← h, codeReferences_filter]

/-- **A node is reached exactly if it is native and is reached among the given lines.** -/
theorem not_isDead_iff (h : HoldsNative source lines) {node : Node} (hnode : node ∈ nodes lines) :
    ¬ IsDead lines node.number ↔ isNativeNumber source node.number = true ∧
      ¬ IsDead (source.filterMap Line.ofText?) node.number := by
  constructor
  · -- References lead from code and from native nodes to native numbers.
    refine not_isDead_induction (P := fun n => isNativeNumber source n = true ∧
      ¬ IsDead (source.filterMap Line.ofText?) n) ?_ ?_ hnode
    · intro n hn
      rw [← h.codeReferences_eq] at hn
      obtain ⟨t, ht, hrefers⟩ := mem_codeReferences hn
      exact ⟨isNativeNumber_of_references ht hrefers, not_isDead_of_codeReferences hn⟩
    · rintro next hnext ⟨hnative, hlive⟩ n hn
      have hmem := (h.mem_nodes_iff next).2 ⟨hnext, hnative⟩
      obtain ⟨t, ht, hreferences⟩ := exists_of_mem_nodes hmem
      exact ⟨isNativeNumber_of_references ht (hreferences ▸ hn),
        not_isDead_of_references hmem hlive hn⟩
  · rintro ⟨hnative, hlive⟩
    refine not_isDead_induction (P := fun n => ¬ IsDead lines n) ?_ ?_
      ((h.mem_nodes_iff node).2 ⟨hnode, hnative⟩) hlive
    · intro n hn
      exact not_isDead_of_codeReferences (h.codeReferences_eq ▸ hn)
    · intro next hnext hreached n hn
      exact not_isDead_of_references ((h.mem_nodes_iff next).1 hnext).1 hreached hn

/-- **Foreign nodes are not kept, and nothing else is lost with them.** -/
theorem keptLines_eq (h : HoldsNative source lines) :
    keptLines lines = keptLines (source.filterMap Line.ofText?) := by
  have hkept : ∀ line ∈ lines,
      isKept (unreached (nodes lines) (codeReferences lines)) line =
        (isNative source line &&
          isKept (unreached (nodes (source.filterMap Line.ofText?))
            (codeReferences (source.filterMap Line.ofText?))) line) := by
    intro line hline
    cases line with
    | code t => rfl
    | node n t =>
        obtain ⟨node, hnode, rfl⟩ := exists_mem_nodes hline
        rw [Bool.eq_iff_iff, Bool.and_eq_true, isKept_node_iff, isKept_node_iff]
        exact h.not_isDead_iff hnode
  calc keptLines lines
      = lines.filter fun line => isKept _ line && isNative source line :=
        List.filter_congr fun line hline => (hkept line hline).trans (Bool.and_comm _ _)
    _ = keptLines (source.filterMap Line.ofText?) := by
        rw [← List.filter_filter, h, keptLines]

end HoldsNative

/-! ### Changed texts -/

/-- **Lines that come from the given lines by changes:** the native lines are the given ones, and no
line holds a line break. -/
structure IsInstrumented (source lines : List (List Char)) : Prop where
  holdsNative : HoldsNative source (lines.filterMap Line.ofText?)
  unbroken : ∀ l ∈ lines, IsUnbroken l

theorem isInstrumented_self {source : List (List Char)} (h : ∀ l ∈ source, IsUnbroken l) :
    IsInstrumented source source :=
  ⟨List.filter_eq_self.2 fun _ => isNative_of_mem, h⟩

/-- A digit is no line break. -/
theorem isBreak_of_isDigit {c : Char} (h : Text.isDigit c = true) : Text.isBreak c = false := by
  by_contra hbreak
  rw [Bool.not_eq_false] at hbreak
  simp only [Text.isBreak, Bool.or_eq_true, beq_iff_eq] at hbreak
  rcases hbreak with ((((((((rfl | rfl) | rfl) | rfl) | rfl) | rfl) | rfl) | rfl) | rfl) | rfl <;>
    exact absurd h (by decide)

theorem IsUnbroken.append {l k : List Char} (hl : IsUnbroken l) (hk : IsUnbroken k) :
    IsUnbroken (l ++ k) :=
  List.forall_mem_append.2 ⟨hl, hk⟩

theorem IsNumber.isUnbroken {n : List Char} (h : IsNumber n) : IsUnbroken n :=
  fun c hc => isBreak_of_isDigit (h.isDigit c hc)

theorem isUnbroken_attachmentMark : IsUnbroken attachmentMark := by
  decide

theorem isUnbroken_attached {l n : List Char} (hl : IsUnbroken l) (hn : IsNumber n) :
    IsUnbroken (attached l n) :=
  hl.append (IsUnbroken.append (by decide) (isUnbroken_attachmentMark.append hn.isUnbroken))

theorem isUnbroken_braced {l n : List Char} (hl : IsUnbroken (l ++ braceMark)) (hn : IsNumber n) :
    IsUnbroken (braced l n) := by
  obtain ⟨hl, hbrace⟩ := List.forall_mem_append.1 hl
  exact IsUnbroken.append hl (isUnbroken_attachmentMark.append (hn.isUnbroken.append hbrace))

namespace IsInstrumented

variable {source front back : List (List Char)} {l k : List Char}

/-- A line may be inserted that is a debug line or a foreign node. -/
theorem insert (h : IsInstrumented source (front ++ back)) (hk : IsUnbroken k)
    (hforeign : ∀ line, Line.ofText? k = some line → isNative source line = false) :
    IsInstrumented source (front ++ k :: back) := by
  obtain ⟨hnative, hunbroken⟩ := h
  obtain ⟨hfront, hback⟩ := List.forall_mem_append.1 hunbroken
  refine ⟨?_, List.forall_mem_append.2 ⟨hfront, List.forall_mem_cons.2 ⟨hk, hback⟩⟩⟩
  rw [HoldsNative, List.filterMap_append] at hnative ⊢
  rw [← hnative, List.filter_append, List.filter_append]
  cases hof : Line.ofText? k with
  | none => rw [List.filterMap_cons_none hof]
  | some line =>
      rw [List.filterMap_cons_some hof, List.filter_cons_of_neg (by simp [hforeign line hof])]

/-- A line may be replaced by one that is taken for the same. -/
theorem replace (h : IsInstrumented source (front ++ l :: back)) (hk : IsUnbroken l → IsUnbroken k)
    (hof : Line.ofText? k = Line.ofText? l) : IsInstrumented source (front ++ k :: back) := by
  obtain ⟨hnative, hunbroken⟩ := h
  obtain ⟨hfront, hback⟩ := List.forall_mem_append.1 hunbroken
  obtain ⟨hl, hback⟩ := List.forall_mem_cons.1 hback
  refine ⟨?_, List.forall_mem_append.2 ⟨hfront, List.forall_mem_cons.2 ⟨hk hl, hback⟩⟩⟩
  rw [HoldsNative, List.filterMap_append, List.filterMap_cons] at hnative ⊢
  rw [hof]
  exact hnative

/-- **A change leaves the native lines as they are.** -/
theorem change {lines next : List (List Char)} (h : IsInstrumented source lines)
    (hchange : Change source lines next) : IsInstrumented source next := by
  have hdebug : ∀ {k : List Char}, IsDebugLine k →
      ∀ line, Line.ofText? k = some line → isNative source line = false := by
    intro k hk line hof
    rw [ofText?_of_isDebugLine hk] at hof
    cases hof
  cases hchange with
  | intrinsic front back hl hmark =>
      obtain ⟨a, r, rfl⟩ := hmark
      exact h.insert hl (hdebug (.inl ⟨a, r, rfl⟩))
  | named front back hl hnamed hname => exact h.insert hl (hdebug (.inr ⟨_, hnamed, hname⟩))
  | @node front back n k hl hnode hn =>
      refine h.insert hl fun line hof => ?_
      obtain ⟨m, hm, rfl⟩ | ⟨hcode, -⟩ := exists_of_ofText?_eq_some hof
      · rw [hm.eq hnode, isNative, Bool.eq_false_iff, ne_eq, isNativeNumber_iff]
        rintro ⟨j, hj, hrefers⟩
        exact (hn j hj).2 hrefers
      · exact absurd hnode (hcode n)
  | attached front back hl hn =>
      exact h.replace (isUnbroken_attached · hn) (ofText?_attached hl hn)
  | braced front back hl hn hcomma =>
      exact h.replace (isUnbroken_braced · hn) (ofText?_braced hl hn hcomma)

end IsInstrumented

theorem textOf_eq_unpieces {lines : List (List Char)} (h : lines ≠ []) :
    textOf lines = Text.unpieces lines := by
  obtain ⟨front, last, rfl⟩ := (List.eq_nil_or_concat' lines).resolve_left h
  rw [textOf, ← Text.unpieces_append_eq_joinWith, Text.unpieces_append, List.append_assoc]
  rfl

/-- What is left of a text of lines. -/
theorem strip_textOf {lines : List (List Char)} (h : ∀ l ∈ lines, IsUnbroken l) :
    strip (textOf lines) =
      Text.joinWith ['\n'] ((keptLines (lines.filterMap Line.ofText?)).map Line.text) ++
        ['\n'] := by
  by_cases hlines : lines = []
  · -- The text of no line is read as one line that is empty.
    subst hlines
    rfl
  · rw [strip, textOf_eq_unpieces hlines, Text.displayLines_unpieces lines h]

/-- Any number of changes leaves the native lines as they are. -/
theorem isInstrumented_of_changes {source lines : List (List Char)}
    (hsource : ∀ l ∈ source, IsUnbroken l)
    (h : Relation.ReflTransGen (Change source) source lines) : IsInstrumented source lines := by
  induction h with
  | refl => exact isInstrumented_self hsource
  | tail _ hchange ih => exact ih.change hchange

/-- **Stripping takes out what was added.**  However the lines of a text without line breaks were
changed, the text without debug information is that of the given lines. -/
theorem strip_instrumented {source lines : List (List Char)} (hsource : ∀ l ∈ source, IsUnbroken l)
    (h : Relation.ReflTransGen (Change source) source lines) :
    strip (textOf lines) = strip (textOf source) := by
  have hlines := isInstrumented_of_changes hsource h
  rw [strip_textOf hlines.unbroken, strip_textOf hsource, hlines.holdsNative.keptLines_eq]

/-- A function with a node that its code refers to. -/
def plainFunction : List (List Char) :=
  ["define void @f() \x7b".toList, "ret void, !prof !0".toList, "!0 = !\x7b\x7d".toList]

/-- The same function with debug information. -/
def instrumentedFunction : List (List Char) :=
  ["define void @f() !dbg !5 \x7b".toList, "call void @llvm.dbg.value()".toList,
    "ret void, !prof !0, !dbg !6".toList, "!llvm.dbg.cu = !\x7b!5\x7d".toList,
    "!0 = !\x7b\x7d".toList, "!5 = !\x7b!0, !5\x7d".toList]

/-- Debug information of every kind is taken out of a function; the node of the debug information
refers to itself and to a node that stays. -/
theorem strip_instrumented_function :
    (∀ l ∈ plainFunction, IsUnbroken l) ∧
      Relation.ReflTransGen (Change plainFunction) plainFunction instrumentedFunction ∧
      strip (textOf instrumentedFunction) = strip (textOf plainFunction) := by
  have hsource : ∀ l ∈ plainFunction, IsUnbroken l := by decide +kernel
  -- The brace and the branch first, then the lines that are inserted.
  have hbraced : Change plainFunction _ _ := .braced [] plainFunction.tail
    (l := "define void @f()".toList) (n := ['5']) (by decide +kernel) (by decide)
    (by decide +kernel)
  have hattached : Change plainFunction _ _ := .attached
    [braced "define void @f()".toList ['5']] ["!0 = !\x7b\x7d".toList]
    (l := "ret void, !prof !0".toList) (n := ['6']) (by decide +kernel) (by decide)
  have hintrinsic : Change plainFunction _ _ := .intrinsic
    [braced "define void @f()".toList ['5']]
    [attached "ret void, !prof !0".toList ['6'], "!0 = !\x7b\x7d".toList]
    (l := "call void @llvm.dbg.value()".toList) (by decide +kernel) (by decide +kernel)
  have hnamed : Change plainFunction _ _ := .named
    [braced "define void @f()".toList ['5'], "call void @llvm.dbg.value()".toList,
      attached "ret void, !prof !0".toList ['6']] ["!0 = !\x7b\x7d".toList]
    (by decide +kernel)
    (by decide +kernel : IsNamed "llvm.dbg.cu".toList "!llvm.dbg.cu = !\x7b!5\x7d".toList)
    (by decide +kernel)
  have hnode : Change plainFunction _ _ := .node
    [braced "define void @f()".toList ['5'], "call void @llvm.dbg.value()".toList,
      attached "ret void, !prof !0".toList ['6'], "!llvm.dbg.cu = !\x7b!5\x7d".toList,
      "!0 = !\x7b\x7d".toList] [] (n := ['5']) (l := "!5 = !\x7b!0, !5\x7d".toList)
    (by decide +kernel) (by decide +kernel) (by decide +kernel)
  have hchanges := ((((Relation.ReflTransGen.single hbraced).tail hattached).tail hintrinsic).tail
    hnamed).tail hnode
  have hplain : [] ++ ("define void @f()".toList ++ braceMark) :: plainFunction.tail =
      plainFunction := by
    decide +kernel
  have hinstrumented : [braced "define void @f()".toList ['5'],
      "call void @llvm.dbg.value()".toList, attached "ret void, !prof !0".toList ['6'],
      "!llvm.dbg.cu = !\x7b!5\x7d".toList, "!0 = !\x7b\x7d".toList] ++
        ["!5 = !\x7b!0, !5\x7d".toList] = instrumentedFunction := by
    decide +kernel
  rw [hplain, hinstrumented] at hchanges
  exact ⟨hsource, hchanges, strip_instrumented hsource hchanges⟩

end JitExplorer.Metadata
