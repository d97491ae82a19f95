/-
**Header lines, read and written.**

A header line is taken apart field by field: two numerals, a name without blanks, and the rest up to
the closing bracket.  Every field in front of the rest ends at a space that the field itself cannot
hold, so there is one way only to take a line apart.

Main definitions:

* `Framing.RawHeader.spelling` — the header line that some fields write;
* `Framing.RawHeader.IsProper` — the fields that a header line can have.

Main results:

* `Framing.RawHeader.ofLine?_eq_some_iff` — a line is read as some fields exactly if the fields are
  proper and write that line.
-/

import JitExplorer.Framing

set_option autoImplicit false

namespace JitExplorer.Framing

/-! ### One character -/

theorem dropChar?_eq_some_iff (c : Char) (s rest : List Char) :
    dropChar? c s = some rest ↔ s = c :: rest := by
  cases s with
  | nil => simp [dropChar?]
  | cons d s =>
      by_cases h : d = c
      · simp [dropChar?, h]
      · simp [dropChar?, h]

theorem dropLast?_eq_some_iff (c : Char) (s rest : List Char) :
    dropLast? c s = some rest ↔ s = rest ++ [c] := by
  unfold dropLast?
  split
  · rename_i h
    obtain ⟨t, rfl⟩ := List.getLast?_eq_some_iff.1 h
    simp
  · rename_i h
    simp only [reduceCtorEq, false_iff]
    rintro rfl
    simp at h

/-! ### Runs of characters -/

theorem span?_eq_some_iff (p : Char → Bool) (s run rest : List Char) :
    span? p s = some (run, rest) ↔ run ≠ [] ∧ s.takeWhile p = run ∧ s.dropWhile p = rest := by
  unfold span?
  split
  · rename_i h
    simp only [reduceCtorEq, h, false_iff, not_and]
    intro hne heq
    exact absurd heq.symm hne
  · rename_i c t h
    simp only [Option.some.injEq, Prod.mk.injEq, h]
    constructor
    · rintro ⟨rfl, rfl⟩
      simp
    · rintro ⟨-, rfl, rfl⟩
      simp

/-- A run that a character outside its class follows is the whole run. -/
theorem takeWhile_append_cons {p : Char → Bool} {run : List Char} {c : Char} (rest : List Char)
    (hrun : ∀ d ∈ run, p d = true) (hc : p c = false) :
    (run ++ c :: rest).takeWhile p = run ∧ (run ++ c :: rest).dropWhile p = c :: rest := by
  constructor
  · rw [List.takeWhile_append_of_pos hrun]
    simp [hc]
  · rw [List.dropWhile_append_of_pos hrun]
    simp [hc]

/-- **A field in front of a space.**  The space lies outside the class of the field, so the field is
what stands in front of the first space, and it is not empty. -/
theorem span?_bind_space_iff {p : Char → Bool} (hp : p ' ' = false) (s run rest : List Char) :
    (∃ s', span? p s = some (run, s') ∧ dropChar? ' ' s' = some rest) ↔
      (run ≠ [] ∧ ∀ c ∈ run, p c = true) ∧ s = run ++ ' ' :: rest := by
  constructor
  · rintro ⟨s', hspan, hspace⟩
    obtain ⟨hne, htake, hdrop⟩ := (span?_eq_some_iff p s run s').1 hspan
    rw [dropChar?_eq_some_iff] at hspace
    have hall : ∀ c ∈ run, p c = true := by
      intro c hc
      rw [← htake] at hc
      exact List.all_eq_true.1 List.all_takeWhile c hc
    refine ⟨⟨hne, hall⟩, ?_⟩
    rw [← hspace, ← htake, ← hdrop, List.takeWhile_append_dropWhile]
  · rintro ⟨⟨hne, hall⟩, rfl⟩
    obtain ⟨htake, hdrop⟩ := takeWhile_append_cons rest hall hp
    exact ⟨' ' :: rest, (span?_eq_some_iff p _ run _).2 ⟨hne, htake, hdrop⟩,
      (dropChar?_eq_some_iff _ _ _).2 rfl⟩

/-! ### The fields of a header line -/

theorem isDigit_space : Text.isDigit ' ' = false := by decide

theorem not_isBlank_space : (!Text.isBlank ' ') = false := by decide

namespace RawHeader

/-- The header line that some fields write, without its newline. -/
def spelling (raw : RawHeader) : List Char :=
  '<' :: (raw.line ++ ' ' :: (raw.lineCount ++ ' ' :: (raw.name ++ ' ' :: (raw.args ++ ['>']))))

/-- The fields that a header line can have. -/
structure IsProper (raw : RawHeader) : Prop where
  line : raw.line ≠ [] ∧ ∀ c ∈ raw.line, Text.isDigit c = true
  lineCount : raw.lineCount ≠ [] ∧ ∀ c ∈ raw.lineCount, Text.isDigit c = true
  name : raw.name ≠ [] ∧ ∀ c ∈ raw.name, (!Text.isBlank c) = true

/-- **A line is read as some fields exactly if the fields are proper and write that line.** -/
theorem ofLine?_eq_some_iff (s : List Char) (raw : RawHeader) :
    ofLine? s = some raw ↔ raw.IsProper ∧ s = raw.spelling := by
  have hline := fun s rest => span?_bind_space_iff isDigit_space s raw.line rest
  have hcount := fun s rest => span?_bind_space_iff isDigit_space s raw.lineCount rest
  have hname := fun s rest =>
    span?_bind_space_iff (p := fun c => !Text.isBlank c) not_isBlank_space s raw.name rest
  constructor
  · intro h
    simp only [ofLine?, Option.bind_eq_bind, Option.bind_eq_some_iff, Prod.exists, Option.pure_def,
      Option.some.injEq] at h
    obtain ⟨s₁, h₁, line, s₂, h₂, s₃, h₃, lineCount, s₄, h₄, s₅, h₅, name, s₆, h₆, s₇, h₇, args, h₈,
      rfl⟩ := h
    obtain ⟨hl, rfl⟩ := (hline s₁ s₃).1 ⟨s₂, h₂, h₃⟩
    obtain ⟨hc, rfl⟩ := (hcount s₃ s₅).1 ⟨s₄, h₄, h₅⟩
    obtain ⟨hn, rfl⟩ := (hname s₅ s₇).1 ⟨s₆, h₆, h₇⟩
    rw [dropChar?_eq_some_iff] at h₁
    rw [dropLast?_eq_some_iff] at h₈
    exact ⟨⟨hl, hc, hn⟩, by rw [h₁, h₈]; rfl⟩
  · rintro ⟨⟨hl, hc, hn⟩, rfl⟩
    obtain ⟨s₂, h₂, h₃⟩ := (hline _ _).2 ⟨hl, rfl⟩
    obtain ⟨s₄, h₄, h₅⟩ := (hcount _ _).2 ⟨hc, rfl⟩
    obtain ⟨s₆, h₆, h₇⟩ := (hname _ _).2 ⟨hn, rfl⟩
    have h₈ := (dropLast?_eq_some_iff '>' (raw.args ++ ['>']) raw.args).2 rfl
    simp only [ofLine?, Option.bind_eq_bind, Option.bind_eq_some_iff, Prod.exists, Option.pure_def,
      Option.some.injEq]
    exact ⟨_, (dropChar?_eq_some_iff _ _ _).2 rfl, raw.line, s₂, h₂, _, h₃, raw.lineCount, s₄, h₄,
      _, h₅, raw.name, s₆, h₆, _, h₇, raw.args, h₈, rfl⟩

/-- Fields that write a header line are determined by it. -/
theorem eq_of_spelling_eq {raw other : RawHeader} (hraw : raw.IsProper) (hother : other.IsProper)
    (h : raw.spelling = other.spelling) : raw = other := by
  have h₁ := (ofLine?_eq_some_iff raw.spelling raw).2 ⟨hraw, rfl⟩
  have h₂ := (ofLine?_eq_some_iff raw.spelling other).2 ⟨hother, h⟩
  exact Option.some.inj (h₁.symm.trans h₂)

end RawHeader

end JitExplorer.Framing
