/-
**Finding a text in a text.**

Main definitions:

* `Text.dropPrefix?` — a text without a given beginning;
* `Text.startsWith`, `Text.contains` — a text begins with another one, or holds it somewhere.

Main results:

* `Text.dropPrefix?_eq_some_iff` — a beginning is taken off exactly when it is one;
* `Text.contains_eq_true_iff` — a text holds another one exactly when it is the other one between
  two texts.
-/

set_option autoImplicit false

namespace JitExplorer.Text

/-- A text without a given beginning, if it has that beginning. -/
def dropPrefix? : List Char → List Char → Option (List Char)
  | [], s => some s
  | _ :: _, [] => none
  | c :: p, d :: s => if c = d then dropPrefix? p s else none

/-- A text begins with another one. -/
def startsWith (start s : List Char) : Bool :=
  (dropPrefix? start s).isSome

/-- A text holds another one. -/
def contains (part : List Char) : List Char → Bool
  | [] => part.isEmpty
  | c :: s => startsWith part (c :: s) || contains part s

theorem dropPrefix?_eq_some_iff (p s r : List Char) : dropPrefix? p s = some r ↔ s = p ++ r := by
  induction p generalizing s with
  | nil => simp [dropPrefix?, eq_comm]
  | cons c p ih =>
      cases s with
      | nil => simp [dropPrefix?]
      | cons d s =>
          by_cases h : c = d
          · subst h
            simp [dropPrefix?, ih]
          · simp [dropPrefix?, h, Ne.symm h]

theorem startsWith_eq_true_iff (p s : List Char) : startsWith p s = true ↔ ∃ r, s = p ++ r := by
  simp [startsWith, Option.isSome_iff_exists, dropPrefix?_eq_some_iff]

theorem contains_eq_true_iff (part s : List Char) :
    contains part s = true ↔ ∃ a b, s = a ++ part ++ b := by
  induction s with
  | nil => simp [contains, List.isEmpty_iff]
  | cons c s ih =>
      simp only [contains, Bool.or_eq_true, startsWith_eq_true_iff, ih]
      constructor
      · rintro (⟨r, h⟩ | ⟨a, b, rfl⟩)
        · exact ⟨[], r, by simpa using h⟩
        · exact ⟨c :: a, b, by simp⟩
      · rintro ⟨a, b, h⟩
        cases a with
        | nil => exact .inl ⟨b, by simpa using h⟩
        | cons d a =>
            refine .inr ⟨a, b, ?_⟩
            simp only [List.cons_append, List.cons.injEq] at h
            exact h.2

end JitExplorer.Text
