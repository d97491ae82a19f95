/-
**Blank characters.**

A blank is a character of the Unicode property "white space" or one of the four separators
U+001C to U+001F.  Trimming a text removes the blanks at its ends and nothing else.

Main definitions:

* `Text.isBlank` — the blank characters;
* `Text.trimLeft`, `Text.trimRight`, `Text.trim` — a text without the blanks at its ends.

Main results:

* `Text.exists_trimRight_append` — only blanks are taken off the end.
-/

import JitExplorer.Text.CodeRange

set_option autoImplicit false

namespace JitExplorer.Text

/-- The blank characters, as closed ranges in ascending order. -/
def blankRanges : List (Nat × Nat) :=
  [(0x09, 0x0D), (0x1C, 0x20), (0x85, 0x85), (0xA0, 0xA0), (0x1680, 0x1680), (0x2000, 0x200A),
   (0x2028, 0x2029), (0x202F, 0x202F), (0x205F, 0x205F), (0x3000, 0x3000)]

/-- The blank characters. -/
def isBlank (c : Char) : Bool :=
  inRanges blankRanges c.toNat

/-- A text without the blanks at its start. -/
def trimLeft (s : List Char) : List Char :=
  s.dropWhile isBlank

/-- A text without the blanks at its end. -/
def trimRight : List Char → List Char
  | [] => []
  | c :: s =>
      match trimRight s with
      | [] => if isBlank c then [] else [c]
      | d :: t => c :: d :: t

/-- A text without the blanks at either end. -/
def trim (s : List Char) : List Char :=
  trimRight (trimLeft s)

/-- Only blanks are taken off the end of a text. -/
theorem exists_trimRight_append (s : List Char) :
    ∃ blanks, (∀ c ∈ blanks, isBlank c = true) ∧ s = trimRight s ++ blanks := by
  induction s with
  | nil => exact ⟨[], by simp, rfl⟩
  | cons c s ih =>
      obtain ⟨blanks, hblanks, hs⟩ := ih
      unfold trimRight
      split
      · rename_i h
        rw [h, List.nil_append] at hs
        by_cases hc : isBlank c = true
        · exact ⟨c :: blanks, by simpa [hc] using hblanks, by simp [hc, hs]⟩
        · exact ⟨blanks, hblanks, by simp [hc, hs]⟩
      · rename_i d t h
        rw [h] at hs
        exact ⟨blanks, hblanks, by rw [hs, List.cons_append, List.cons_append, List.cons_append]⟩

end JitExplorer.Text
