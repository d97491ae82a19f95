/-
**What a line of LLVM text is.**

The parts of a line are described here without saying how they are found: the debug lines, which
are not looked at, the numbered nodes, the numbers that a line refers to, and the attachments.
Attachments are taken out from the front to the back, each as long as it can be, and what stands
behind one is looked at on its own.

Main definitions:

* `Metadata.IsNumber`, `Metadata.IsNode`, `Metadata.IsDebugLine`, `Metadata.IsCode` — the kinds of
  lines;
* `Metadata.RefersTo` — a line refers to a number;
* `Metadata.IsAttachment`, `Metadata.Erases` — the attachments, and a line without them.

Main results:

* `Metadata.mem_references_iff` — the references of a line are the numbers that it refers to;
* `Metadata.eraseAttachments_eq_iff` — **attachments are erased where they stand**;
* `Metadata.ofText?_eq_none_iff`, `Metadata.ofText?_of_isNode`, `Metadata.ofText?_of_isCode` — what
  a line is taken for.
-/

import JitExplorer.Filter.Metadata
import Mathlib.Data.List.TakeWhile

set_option autoImplicit false

namespace JitExplorer.Metadata

/-! ### Numbers -/

/-- A number as it is written behind an exclamation mark. -/
structure IsNumber (n : List Char) : Prop where
  ne_nil : n ≠ []
  isDigit : ∀ c ∈ n, Text.isDigit c = true

/-- No digit stands at the front of a text. -/
def StartsNoDigit (s : List Char) : Prop :=
  ∀ c ∈ s.head?, Text.isDigit c = false

theorem takeWhile_of_startsNoDigit {s : List Char} (h : StartsNoDigit s) :
    s.takeWhile Text.isDigit = [] := by
  cases s with
  | nil => rfl
  | cons c s => simp [h c rfl]

theorem takeWhile_number_append {n s : List Char} (hn : IsNumber n) (hs : StartsNoDigit s) :
    (n ++ s).takeWhile Text.isDigit = n := by
  rw [List.takeWhile_append_of_pos hn.isDigit, takeWhile_of_startsNoDigit hs, List.append_nil]

theorem dropWhile_number_append {n s : List Char} (hn : IsNumber n) (hs : StartsNoDigit s) :
    (n ++ s).dropWhile Text.isDigit = s := by
  rw [List.dropWhile_append_of_pos hn.isDigit]
  cases s with
  | nil => rfl
  | cons c s => simp [hs c rfl]

theorem startsNoDigit_dropWhile (s : List Char) : StartsNoDigit (s.dropWhile Text.isDigit) := by
  intro c hc
  have hhead := List.head?_dropWhile_not Text.isDigit s
  rw [hc] at hhead
  simpa using hhead

theorem isNumber_takeWhile {s : List Char} (h : s.takeWhile Text.isDigit ≠ []) :
    IsNumber (s.takeWhile Text.isDigit) :=
  ⟨h, fun _ hc => List.mem_takeWhile_imp hc⟩

/-- The digits at the front of a text, of which there is one, are a number. -/
theorem isEmpty_takeWhile_iff (s : List Char) :
    (s.takeWhile Text.isDigit).isEmpty = false ↔ IsNumber (s.takeWhile Text.isDigit) := by
  rw [List.isEmpty_eq_false_iff]
  exact ⟨isNumber_takeWhile, IsNumber.ne_nil⟩

/-- A text goes on with a number exactly if the digits at its front are that number. -/
theorem takeWhile_eq_iff {n : List Char} (hn : IsNumber n) (s : List Char) :
    s.takeWhile Text.isDigit = n ↔ ∃ r, s = n ++ r ∧ StartsNoDigit r := by
  constructor
  · rintro rfl
    exact ⟨_, List.takeWhile_append_dropWhile.symm, startsNoDigit_dropWhile s⟩
  · rintro ⟨r, rfl, hr⟩
    exact takeWhile_number_append hn hr

/-! ### References -/

/-- A text refers to a number: it holds an exclamation mark and behind it that number, which ends
there. -/
def RefersTo (s n : List Char) : Prop :=
  IsNumber n ∧ ∃ a r, s = a ++ '!' :: (n ++ r) ∧ StartsNoDigit r

theorem refersTo_cons_iff (c : Char) (s n : List Char) :
    RefersTo (c :: s) n ↔
      (c = '!' ∧ IsNumber n ∧ s.takeWhile Text.isDigit = n) ∨ RefersTo s n := by
  constructor
  · rintro ⟨hn, a, r, h, hr⟩
    cases a with
    | nil =>
        obtain ⟨rfl, rfl⟩ := List.cons.inj h
        exact .inl ⟨rfl, hn, takeWhile_number_append hn hr⟩
    | cons d a =>
        obtain ⟨rfl, rfl⟩ := List.cons.inj h
        exact .inr ⟨hn, a, r, rfl, hr⟩
  · rintro (⟨rfl, hn, htake⟩ | ⟨hn, a, r, rfl, hr⟩)
    · obtain ⟨r, rfl, hr⟩ := (takeWhile_eq_iff hn s).1 htake
      exact ⟨hn, [], r, rfl, hr⟩
    · exact ⟨hn, c :: a, r, rfl, hr⟩

/-- **The references of a text are the numbers that it refers to.** -/
theorem mem_references_iff (s n : List Char) : n ∈ references s ↔ RefersTo s n := by
  induction s with
  | nil => simp [references, RefersTo]
  | cons c s ih =>
      rw [refersTo_cons_iff, ← ih, references]
      by_cases h : c = '!' ∧ (s.takeWhile Text.isDigit).isEmpty = false
      · have hnumber := (isEmpty_takeWhile_iff s).1 h.2
        rw [if_pos (by simp [h]), List.mem_cons]
        refine or_congr_left ⟨?_, fun h => h.2.2.symm⟩
        rintro rfl
        exact ⟨h.1, hnumber, rfl⟩
      · rw [if_neg (by simpa using h), iff_or_self]
        rintro ⟨hc, hn, rfl⟩
        exact absurd ⟨hc, (isEmpty_takeWhile_iff s).2 hn⟩ h

/-! ### Attachments -/

/-- The text in front of the number of an attachment. -/
def attachmentMark : List Char := " !dbg !".toList

/-- What may stand in front of the mark of an attachment as a part of it. -/
def IsComma (comma : List Char) : Prop :=
  comma = [] ∨ comma = [',']

/-- **An attachment:** a comma, which may be missing, the mark, and a number. -/
def IsAttachment (a : List Char) : Prop :=
  ∃ comma n, IsComma comma ∧ IsNumber n ∧ a = comma ++ (attachmentMark ++ n)

/-- No attachment starts at the front of a text. -/
def StartsNoAttachment (s : List Char) : Prop :=
  ∀ a r, s = a ++ r → ¬ IsAttachment a

/-- **A line without its attachments:** they are taken out from the front to the back, each with all
of its digits. -/
inductive Erases : List Char → List Char → Prop where
  | nil : Erases [] []
  | attachment {a s t : List Char} (ha : IsAttachment a) (hs : StartsNoDigit s) (h : Erases s t) :
      Erases (a ++ s) t
  | char {c : Char} {s t : List Char} (hs : StartsNoAttachment (c :: s)) (h : Erases s t) :
      Erases (c :: s) (c :: t)

theorem spacedAttachmentLength_eq (s : List Char) :
    spacedAttachmentLength s =
      match Text.dropPrefix? attachmentMark s with
      | none => 0
      | some r =>
          if (r.takeWhile Text.isDigit).isEmpty then 0
          else 7 + (r.takeWhile Text.isDigit).length :=
  rfl

theorem spacedAttachmentLength_append {n s : List Char} (hn : IsNumber n) (hs : StartsNoDigit s) :
    spacedAttachmentLength (attachmentMark ++ (n ++ s)) = (attachmentMark ++ n).length := by
  have hdrop : Text.dropPrefix? attachmentMark (attachmentMark ++ (n ++ s)) = some (n ++ s) :=
    (Text.dropPrefix?_eq_some_iff _ _ _).2 rfl
  have hempty : n.isEmpty = false := List.isEmpty_eq_false_iff.2 hn.ne_nil
  simp only [spacedAttachmentLength_eq, hdrop, takeWhile_number_append hn hs, hempty,
    Bool.false_eq_true, if_false, List.length_append]
  rfl

/-- The length that is found for an attachment without a comma is the length of one. -/
theorem exists_of_spacedAttachmentLength_ne_zero {s : List Char}
    (h : spacedAttachmentLength s ≠ 0) :
    ∃ n r, IsNumber n ∧ StartsNoDigit r ∧ s = attachmentMark ++ (n ++ r) := by
  rw [spacedAttachmentLength_eq] at h
  split at h
  · exact absurd rfl h
  · rename_i r hdrop
    obtain rfl := (Text.dropPrefix?_eq_some_iff _ _ _).1 hdrop
    have hdigits : r.takeWhile Text.isDigit ≠ [] := by
      intro hnil
      simp only [hnil, List.isEmpty_nil, if_true, ne_eq, not_true_eq_false] at h
    exact ⟨_, _, isNumber_takeWhile hdigits, startsNoDigit_dropWhile r, by
      rw [List.takeWhile_append_dropWhile]⟩

/-- The length of an attachment at the front is found. -/
theorem attachmentLength_append {a s : List Char} (ha : IsAttachment a) (hs : StartsNoDigit s) :
    attachmentLength (a ++ s) = a.length := by
  obtain ⟨comma, n, rfl | rfl, hn, rfl⟩ := ha
  · rw [List.nil_append, List.append_assoc]
    exact spacedAttachmentLength_append hn hs
  · have hlength := spacedAttachmentLength_append hn hs
    rw [List.append_assoc, List.append_assoc, List.singleton_append, attachmentLength, if_pos rfl,
      hlength]
    rfl

/-- The length that is found is the length of an attachment at the front. -/
theorem exists_of_attachmentLength_ne_zero {s : List Char} (h : attachmentLength s ≠ 0) :
    ∃ a r, IsAttachment a ∧ StartsNoDigit r ∧ s = a ++ r := by
  cases s with
  | nil => exact absurd rfl h
  | cons c s =>
      rw [attachmentLength] at h
      split at h
      · rename_i hc
        subst hc
        have hspaced : spacedAttachmentLength s ≠ 0 := by
          intro hzero
          simp [hzero] at h
        obtain ⟨n, r, hn, hr, rfl⟩ := exists_of_spacedAttachmentLength_ne_zero hspaced
        exact ⟨[','] ++ (attachmentMark ++ n), r, ⟨_, n, .inr rfl, hn, rfl⟩, hr, by simp⟩
      · obtain ⟨n, r, hn, hr, hs⟩ := exists_of_spacedAttachmentLength_ne_zero h
        exact ⟨[] ++ (attachmentMark ++ n), r, ⟨_, n, .inl rfl, hn, rfl⟩, hr, by simp [hs]⟩

theorem isAttachment_ne_nil {a : List Char} (h : IsAttachment a) : a ≠ [] := by
  obtain ⟨comma, n, -, hn, rfl⟩ := h
  simp [hn.ne_nil]

/-- An attachment at the front of a text can be taken with all of its digits. -/
theorem IsAttachment.exists_longest {a r : List Char} (h : IsAttachment a) :
    ∃ b s, IsAttachment b ∧ StartsNoDigit s ∧ a ++ r = b ++ s := by
  obtain ⟨comma, n, hcomma, hn, rfl⟩ := h
  refine ⟨comma ++ (attachmentMark ++ (n ++ r.takeWhile Text.isDigit)), r.dropWhile Text.isDigit,
    ⟨comma, _, hcomma, ⟨?_, ?_⟩, rfl⟩, startsNoDigit_dropWhile r, ?_⟩
  · simp [hn.ne_nil]
  · intro c hc
    rcases List.mem_append.1 hc with hc | hc
    · exact hn.isDigit c hc
    · exact List.mem_takeWhile_imp hc
  · simp only [List.append_assoc, List.takeWhile_append_dropWhile]

theorem attachmentLength_eq_zero_iff (s : List Char) :
    attachmentLength s = 0 ↔ StartsNoAttachment s := by
  constructor
  · rintro hzero a r rfl ha
    obtain ⟨b, t, hb, ht, hsplit⟩ := ha.exists_longest (r := r)
    rw [hsplit, attachmentLength_append hb ht] at hzero
    exact isAttachment_ne_nil hb (List.length_eq_zero_iff.1 hzero)
  · intro hs
    by_contra hne
    obtain ⟨a, r, ha, -, rfl⟩ := exists_of_attachmentLength_ne_zero hne
    exact hs a r rfl ha

theorem eraseAttachmentsAfter_length (a s : List Char) :
    eraseAttachmentsAfter a.length (a ++ s) = eraseAttachments s := by
  induction a with
  | nil => rfl
  | cons c a ih => exact ih

/-- An attachment at the front is erased. -/
theorem eraseAttachments_append {a s : List Char} (ha : IsAttachment a) (hs : StartsNoDigit s) :
    eraseAttachments (a ++ s) = eraseAttachments s := by
  have hlength := attachmentLength_append ha hs
  cases a with
  | nil => exact absurd rfl (isAttachment_ne_nil ha)
  | cons c a =>
      rw [List.cons_append] at hlength ⊢
      rw [eraseAttachments, eraseAttachmentsAfter, hlength]
      exact eraseAttachmentsAfter_length a s

/-- A character at which no attachment starts stays. -/
theorem eraseAttachments_cons {c : Char} {s : List Char} (h : StartsNoAttachment (c :: s)) :
    eraseAttachments (c :: s) = c :: eraseAttachments s := by
  rw [eraseAttachments, eraseAttachmentsAfter, (attachmentLength_eq_zero_iff _).2 h]
  rfl

theorem Erases.eraseAttachments_eq {s t : List Char} (h : Erases s t) : eraseAttachments s = t := by
  induction h with
  | nil => rfl
  | attachment ha hs _ ih => rw [eraseAttachments_append ha hs, ih]
  | char hs _ ih => rw [eraseAttachments_cons hs, ih]

theorem erases_eraseAttachments (s : List Char) : Erases s (eraseAttachments s) := by
  -- What stands behind an attachment is shorter than the line, but it is no tail of one step.
  induction hlength : s.length using Nat.strong_induction_on generalizing s with
  | _ length ih =>
      subst hlength
      by_cases hzero : attachmentLength s = 0
      · cases s with
        | nil => exact .nil
        | cons c s =>
            have hs := (attachmentLength_eq_zero_iff _).1 hzero
            rw [eraseAttachments_cons hs]
            exact .char hs (ih s.length (by simp) s rfl)
      · obtain ⟨a, r, ha, hr, rfl⟩ := exists_of_attachmentLength_ne_zero hzero
        have hpos := List.length_pos_iff.2 (isAttachment_ne_nil ha)
        rw [eraseAttachments_append ha hr]
        exact .attachment ha hr (ih r.length (by simp; omega) r rfl)

/-- **Attachments are erased where they stand.** -/
theorem eraseAttachments_eq_iff (s t : List Char) : eraseAttachments s = t ↔ Erases s t :=
  ⟨fun h => h ▸ erases_eraseAttachments s, Erases.eraseAttachments_eq⟩

/-! ### Kinds of lines -/

/-- What stands between the name or number that a line defines and its definition. -/
def definitionMark : List Char := " = ".toList

/-- **A numbered node:** the line defines a number. -/
def IsNode (n l : List Char) : Prop :=
  IsNumber n ∧ ∃ r, l = '!' :: (n ++ (definitionMark ++ r))

/-- The names that metadata can have. -/
def IsName : List Char → Prop
  | [] => False
  | c :: s => isNameStart c = true ∧ ∀ d ∈ s, isNameRest d = true

/-- A line that defines metadata for a name. -/
def IsNamed (name l : List Char) : Prop :=
  IsName name ∧ ∃ r, l = '!' :: (name ++ (definitionMark ++ r))

/-- The text that every call of a debug intrinsic holds. -/
def intrinsicMark : List Char := "@llvm.dbg.".toList

/-- **A debug line** calls a debug intrinsic or defines debug metadata. -/
def IsDebugLine (l : List Char) : Prop :=
  (∃ a r, l = a ++ intrinsicMark ++ r) ∨ ∃ name, IsNamed name l ∧ debugName <+: name

/-- A line that is no numbered node. -/
def IsCode (l : List Char) : Prop :=
  ∀ n, ¬ IsNode n l

theorem startsNoDigit_definitionMark (r : List Char) : StartsNoDigit (definitionMark ++ r) := by
  intro c hc
  obtain rfl : c = ' ' := by simpa [definitionMark, eq_comm] using hc
  decide

theorem definedNumber?_eq_some_iff (l n : List Char) : definedNumber? l = some n ↔ IsNode n l := by
  constructor
  · intro h
    unfold definedNumber? at h
    split at h
    · rename_i s
      split at h
      · rename_i hs
        obtain ⟨hdigits, hmark⟩ := Bool.and_eq_true_iff.1 hs
        cases h
        obtain ⟨r, hr⟩ := (Text.startsWith_eq_true_iff _ _).1 hmark
        refine ⟨(isEmpty_takeWhile_iff s).1 (by simpa using hdigits), r, ?_⟩
        rw [definitionMark, ← hr, List.takeWhile_append_dropWhile]
      · cases h
    · cases h
  · rintro ⟨hn, r, rfl⟩
    have htake := takeWhile_number_append hn (startsNoDigit_definitionMark r)
    have hdrop := dropWhile_number_append hn (startsNoDigit_definitionMark r)
    have hmark : Text.startsWith " = ".toList (definitionMark ++ r) = true :=
      (Text.startsWith_eq_true_iff _ _).2 ⟨r, rfl⟩
    have hempty : n.isEmpty = false := List.isEmpty_eq_false_iff.2 hn.ne_nil
    simp only [definedNumber?, htake, hdrop, hmark, hempty, Bool.not_false, Bool.and_self, if_true]

theorem not_isNameRest_space : isNameRest ' ' = false := by decide

theorem definedName?_eq_some_iff (l name : List Char) :
    definedName? l = some name ↔ IsNamed name l := by
  constructor
  · intro h
    unfold definedName? at h
    split at h
    · rename_i c s
      split at h
      · rename_i hs
        obtain ⟨hstart, hmark⟩ := Bool.and_eq_true_iff.1 hs
        cases h
        obtain ⟨r, hr⟩ := (Text.startsWith_eq_true_iff _ _).1 hmark
        refine ⟨⟨hstart, fun d hd => List.mem_takeWhile_imp hd⟩, r, ?_⟩
        rw [definitionMark, ← hr, List.cons_append, List.takeWhile_append_dropWhile]
      · cases h
    · cases h
  · rintro ⟨hname, r, rfl⟩
    cases name with
    | nil => exact hname.elim
    | cons c s =>
        -- The name ends at the space of the mark, which no name holds.
        have htake : (s ++ (definitionMark ++ r)).takeWhile isNameRest = s := by
          rw [List.takeWhile_append_of_pos hname.2]
          simp [definitionMark, not_isNameRest_space]
        have hdrop : (s ++ (definitionMark ++ r)).dropWhile isNameRest = definitionMark ++ r := by
          rw [List.dropWhile_append_of_pos hname.2]
          simp [definitionMark, not_isNameRest_space]
        have hmark : Text.startsWith " = ".toList (definitionMark ++ r) = true :=
          (Text.startsWith_eq_true_iff _ _).2 ⟨r, rfl⟩
        simp only [List.cons_append, definedName?, htake, hdrop, hmark, hname.1, Bool.and_self,
          if_true]

/-- A line defines at most one number. -/
theorem IsNode.eq {n m l : List Char} (hn : IsNode n l) (hm : IsNode m l) : n = m :=
  Option.some.inj (((definedNumber?_eq_some_iff l n).2 hn).symm.trans
    ((definedNumber?_eq_some_iff l m).2 hm))

/-- A node refers to the number that it defines. -/
theorem IsNode.refersTo {n l : List Char} (h : IsNode n l) : RefersTo l n := by
  obtain ⟨hn, r, rfl⟩ := h
  exact ⟨hn, [], _, rfl, startsNoDigit_definitionMark r⟩

theorem isCode_iff (l : List Char) : IsCode l ↔ definedNumber? l = none := by
  rw [Option.eq_none_iff_forall_ne_some]
  exact forall_congr' fun n => not_congr (definedNumber?_eq_some_iff l n).symm

theorem isDebugLine_iff (l : List Char) :
    IsDebugLine l ↔ (Text.contains intrinsicMark l = true ∨
      (definedName? l).any (Text.startsWith debugName) = true) := by
  refine or_congr (Text.contains_eq_true_iff _ _).symm ?_
  rw [Option.any_eq_true]
  refine exists_congr fun name => and_congr (definedName?_eq_some_iff l name).symm ?_
  rw [Text.startsWith_eq_true_iff, List.IsPrefix]
  exact exists_congr fun r => eq_comm

/-- **The lines that are not looked at are the debug lines.** -/
theorem ofText?_of_isDebugLine {l : List Char} (h : IsDebugLine l) : Line.ofText? l = none := by
  rcases (isDebugLine_iff l).1 h with hintrinsic | hnamed
  · exact if_pos hintrinsic
  · rw [Line.ofText?, if_pos hnamed, ite_self]

theorem ofText?_of_not_isDebugLine {l : List Char} (h : ¬ IsDebugLine l) :
    Line.ofText? l = some (match definedNumber? l with
      | some n => .node n l
      | none => .code (eraseAttachments l)) := by
  rw [isDebugLine_iff, not_or] at h
  rw [Line.ofText?, if_neg h.2]
  refine (if_neg h.1).trans ?_
  cases definedNumber? l <;> rfl

theorem ofText?_eq_none_iff (l : List Char) : Line.ofText? l = none ↔ IsDebugLine l := by
  refine ⟨fun hnone => ?_, ofText?_of_isDebugLine⟩
  by_contra h
  rw [ofText?_of_not_isDebugLine h] at hnone
  cases hnone

/-- **Any other line is a node or code,** of which the attachments are erased. -/
theorem ofText?_of_isNode {n l : List Char} (h : ¬ IsDebugLine l) (hn : IsNode n l) :
    Line.ofText? l = some (.node n l) := by
  rw [ofText?_of_not_isDebugLine h, (definedNumber?_eq_some_iff l n).2 hn]

theorem ofText?_of_isCode {l t : List Char} (h : ¬ IsDebugLine l) (hcode : IsCode l)
    (ht : Erases l t) : Line.ofText? l = some (.code t) := by
  rw [ofText?_of_not_isDebugLine h, (isCode_iff l).1 hcode, ht.eraseAttachments_eq]

/-- A line that is looked at is a node, or what is left of code. -/
theorem exists_of_ofText?_eq_some {l : List Char} {line : Line} (h : Line.ofText? l = some line) :
    (∃ n, IsNode n l ∧ line = .node n l) ∨ (IsCode l ∧ ∃ t, Erases l t ∧ line = .code t) := by
  by_cases hdebug : IsDebugLine l
  · rw [ofText?_of_isDebugLine hdebug] at h
    cases h
  · by_cases hcode : IsCode l
    · have herases := erases_eraseAttachments l
      rw [ofText?_of_isCode hdebug hcode herases] at h
      exact .inr ⟨hcode, _, herases, (Option.some.inj h).symm⟩
    · obtain ⟨n, hn⟩ := not_forall_not.1 hcode
      rw [ofText?_of_isNode hdebug hn] at h
      exact .inl ⟨n, hn, (Option.some.inj h).symm⟩

instance : DecidablePred IsNumber := fun n =>
  decidable_of_iff (n ≠ [] ∧ n.all Text.isDigit = true)
    ⟨fun h => ⟨h.1, List.all_eq_true.1 h.2⟩, fun h => ⟨h.ne_nil, List.all_eq_true.2 h.isDigit⟩⟩

instance (s n : List Char) : Decidable (RefersTo s n) :=
  decidable_of_iff _ (mem_references_iff s n)

instance (n l : List Char) : Decidable (IsNode n l) :=
  decidable_of_iff _ (definedNumber?_eq_some_iff l n)

instance (name l : List Char) : Decidable (IsNamed name l) :=
  decidable_of_iff _ (definedName?_eq_some_iff l name)

instance : DecidablePred IsCode := fun l =>
  decidable_of_iff _ (isCode_iff l).symm

instance : DecidablePred IsDebugLine := fun l =>
  decidable_of_iff _ (ofText?_eq_none_iff l)

end JitExplorer.Metadata
