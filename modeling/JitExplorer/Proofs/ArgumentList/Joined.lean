/-
**Joining and splitting argument lists.**

A joined list is split at its bare separators: those outside of all brackets.  Two facts say how.  A
text without a bare separator is one element, and such a text with closed brackets in front of a
separator is the first element.  All else follows from these two; an element that ends with a comma,
or that closes more brackets than it has opened, needs no case of its own.

Splitting gives back what was joined exactly if no element holds a bare separator, all brackets are
closed in front of each separator, and the last element is not empty.  Any text is split into
elements of this kind, except that the last one is empty if the text is a separator or ends with two
of them.  Joining the elements gives the text back, up to a separator at its very end.

Main definitions:

* `ArgumentList.nesting` — the bracket depth behind a text;
* `ArgumentList.HasBareSeparator` — a separator stands outside of all brackets;
* `ArgumentList.AreElements` — the elements of a text.

Main results:

* `ArgumentList.splitAt_of_not_hasSeparatorFrom`, `ArgumentList.splitAt_append_separator` — the two
  facts about splitting;
* `ArgumentList.areElements_split`, `ArgumentList.eq_joinWith_split` — the elements of a text, and
  the text that they are joined to;
* `ArgumentList.splitText_join_iff` — the argument types that are given back;
* `ArgumentList.split_inverts_join` — **splitting undoes joining, and joining undoes splitting.**
-/

import JitExplorer.ArgumentList
import JitExplorer.Proofs.Framing.RoundTrip

set_option autoImplicit false

namespace JitExplorer.ArgumentList

/-! ### Brackets -/

/-- The opening brackets. -/
def openers : List Char := ['(', '[', '{']

/-- The closing brackets. -/
def closers : List Char := [')', ']', '}']

/-- **The bracket depth behind a text:** how many more brackets it opens than it closes. -/
def nesting (s : List Char) : Int :=
  (s.countP fun c => c ∈ openers : Nat) - (s.countP fun c => c ∈ closers : Nat)

@[simp] theorem nesting_nil : nesting [] = 0 := rfl

@[simp] theorem nesting_append (s t : List Char) : nesting (s ++ t) = nesting s + nesting t := by
  simp only [nesting, List.countP_append]
  omega

/-- A bracket changes the depth by one, and any other character leaves it. -/
theorem depthAfter_eq (depth : Int) (c : Char) : depthAfter depth c = depth + nesting [c] := by
  by_cases hopens : c ∈ openers
  · obtain rfl | rfl | rfl : c = '(' ∨ c = '[' ∨ c = '{' := by simpa [openers] using hopens
    all_goals rfl
  by_cases hcloses : c ∈ closers
  · obtain rfl | rfl | rfl : c = ')' ∨ c = ']' ∨ c = '}' := by simpa [closers] using hcloses
    all_goals rfl
  · have hnesting : nesting [c] = 0 := by simp [nesting, hopens, hcloses]
    simp only [openers, closers, List.mem_cons, List.not_mem_nil, or_false, not_or] at hopens hcloses
    simp [depthAfter, hnesting, hopens, hcloses]

/-! ### Bare separators -/

/-- What stands between the elements of a joined list. -/
def separator : List Char := [',', ' ']

/-- A separator stands at depth zero in a text that begins at a given depth. -/
def HasSeparatorFrom (depth : Int) (s : List Char) : Prop :=
  ∃ front back, s = front ++ separator ++ back ∧ depth + nesting front = 0

/-- **A separator stands outside of all brackets.** -/
def HasBareSeparator (s : List Char) : Prop :=
  ∃ front back, s = front ++ separator ++ back ∧ nesting front = 0

instance (s : List Char) : Decidable (HasBareSeparator s) :=
  decidable_of_iff (∃ n < s.length, separator <+: s.drop n ∧ nesting (s.take n) = 0) (by
    constructor
    · rintro ⟨n, -, ⟨back, hback⟩, hclosed⟩
      refine ⟨s.take n, back, ?_, hclosed⟩
      rw [List.append_assoc, hback, List.take_append_drop]
    · rintro ⟨front, back, rfl, hclosed⟩
      refine ⟨front.length, ?_, ?_, ?_⟩
      · simp [separator]
      · simp [List.prefix_append]
      · simpa using hclosed)

theorem hasSeparatorFrom_zero_iff (s : List Char) : HasSeparatorFrom 0 s ↔ HasBareSeparator s := by
  simp only [HasSeparatorFrom, HasBareSeparator, Int.zero_add]

/-- A separator stands at the front of a text, or in what follows its first character. -/
theorem hasSeparatorFrom_cons_iff (depth : Int) (c : Char) (s : List Char) :
    HasSeparatorFrom depth (c :: s) ↔
      (depth = 0 ∧ c = ',' ∧ s.head? = some ' ') ∨ HasSeparatorFrom (depthAfter depth c) s := by
  rw [depthAfter_eq]
  constructor
  · rintro ⟨front, back, h, hdepth⟩
    cases front with
    | nil =>
        obtain ⟨rfl, rfl⟩ : c = ',' ∧ s = ' ' :: back := by simpa [separator] using h
        exact .inl ⟨by simpa using hdepth, rfl, rfl⟩
    | cons d front =>
        obtain ⟨rfl, rfl⟩ : c = d ∧ s = front ++ separator ++ back := by simpa using h
        rw [← List.singleton_append, nesting_append] at hdepth
        exact .inr ⟨front, back, rfl, by omega⟩
  · rintro (⟨hdepth, rfl, hspace⟩ | ⟨front, back, rfl, hdepth⟩)
    · obtain ⟨t, rfl⟩ := List.head?_eq_some_iff.1 hspace
      exact ⟨[], t, rfl, by simpa using hdepth⟩
    · refine ⟨c :: front, back, by simp, ?_⟩
      rw [← List.singleton_append, nesting_append]
      omega

/-- A text with a bare separator has a first one. -/
theorem exists_first_separator {s : List Char} (h : HasBareSeparator s) :
    ∃ front back, s = front ++ separator ++ back ∧ nesting front = 0 ∧ ¬ HasBareSeparator front := by
  -- The first separator is the one with the least in front of it.
  obtain ⟨front, back, hs, hclosed⟩ := h
  induction hn : front.length using Nat.strongRecOn generalizing front back with
  | ind n ih =>
      by_cases hfront : HasBareSeparator front
      · obtain ⟨earlier, rest, rfl, hearlier⟩ := hfront
        refine ih earlier.length ?_ earlier (rest ++ separator ++ back) ?_ hearlier rfl
        · rw [← hn]
          simp [separator]
        · simp [hs]
      · exact ⟨front, back, hs, hclosed, hfront⟩

/-! ### The two facts about splitting -/

/-- A character that begins no separator at depth zero belongs to the first element. -/
theorem splitAt_cons {depth : Int} {c : Char} {s : List Char}
    (h : ¬ (depth = 0 ∧ c = ',' ∧ s.head? = some ' ')) :
    splitAt depth false (c :: s) = Text.consHead c (splitAt (depthAfter depth c) false s) := by
  have hc : (c = ',' && depth = 0 && s.head? == some ' ') = false := by
    rw [Bool.eq_false_iff]
    intro hc
    simp only [Bool.and_eq_true, decide_eq_true_eq, beq_iff_eq] at hc
    exact h ⟨hc.1.2, hc.1.1, hc.2⟩
  simp [splitAt, hc]

/-- **A text without a separator at depth zero is one element.** -/
theorem splitAt_of_not_hasSeparatorFrom {depth : Int} {s : List Char}
    (h : ¬ HasSeparatorFrom depth s) (hne : s ≠ []) : splitAt depth false s = [s] := by
  induction s generalizing depth with
  | nil => exact absurd rfl hne
  | cons c s ih =>
      rw [hasSeparatorFrom_cons_iff, not_or] at h
      rw [splitAt_cons h.1]
      cases s with
      | nil => rfl
      | cons d s => rw [ih h.2 (List.cons_ne_nil d s), Text.consHead]

/-- **The first element of a text** ends in front of the first separator at depth zero. -/
theorem splitAt_append_separator {depth : Int} {s : List Char} (h : ¬ HasSeparatorFrom depth s)
    (hclosed : depth + nesting s = 0) (rest : List Char) :
    splitAt depth false (s ++ separator ++ rest) = s :: splitAt 0 false rest := by
  induction s generalizing depth with
  | nil =>
      obtain rfl : depth = 0 := by simpa using hclosed
      rfl
  | cons c s ih =>
      rw [hasSeparatorFrom_cons_iff, not_or] at h
      rw [← List.singleton_append, nesting_append] at hclosed
      have hrest := ih h.2 (by rw [depthAfter_eq]; omega)
      have hfront : ¬ (depth = 0 ∧ c = ',' ∧ (s ++ separator ++ rest).head? = some ' ') := by
        -- The comma of the separator does not turn a comma in front of it into a separator.
        cases s with
        | nil => simp [separator]
        | cons d s => simpa using h.1
      rw [List.cons_append, List.cons_append, splitAt_cons hfront, hrest, Text.consHead]

theorem split_nil : split [] = [] := rfl

theorem split_of_not_hasBareSeparator {s : List Char} (h : ¬ HasBareSeparator s) (hne : s ≠ []) :
    split s = [s] := by
  rw [← hasSeparatorFrom_zero_iff] at h
  exact splitAt_of_not_hasSeparatorFrom h hne

theorem split_append_separator {s : List Char} (h : ¬ HasBareSeparator s) (hclosed : nesting s = 0)
    (rest : List Char) : split (s ++ separator ++ rest) = s :: split rest := by
  rw [← hasSeparatorFrom_zero_iff] at h
  exact splitAt_append_separator h (by omega) rest

/-- Texts are covered by the two facts: a statement holds of all texts if it holds of the empty
text, of a text without bare separators, and of a first element in front of a text of which it
holds. -/
theorem split_induction {motive : List Char → Prop} (nil : motive [])
    (single : ∀ s, ¬ HasBareSeparator s → s ≠ [] → motive s)
    (append : ∀ front rest, ¬ HasBareSeparator front → nesting front = 0 → motive rest →
      motive (front ++ separator ++ rest)) (s : List Char) : motive s := by
  induction hn : s.length using Nat.strongRecOn generalizing s with
  | ind n ih =>
      by_cases hbare : HasBareSeparator s
      · obtain ⟨front, rest, rfl, hclosed, hfront⟩ := exists_first_separator hbare
        refine append front rest hfront hclosed (ih rest.length ?_ rest rfl)
        rw [← hn]
        simp [separator]
        omega
      · by_cases hne : s = []
        · exact hne ▸ nil
        · exact single s hbare hne

/-! ### Elements -/

/-- **The elements of a text:** none holds a bare separator, and the brackets are closed in front of
each separator between them. -/
structure AreElements (parts : List (List Char)) : Prop where
  bare : ∀ part ∈ parts, ¬ HasBareSeparator part
  closed : ∀ part ∈ parts.dropLast, nesting part = 0

theorem areElements_nil : AreElements [] :=
  ⟨by simp, by simp⟩

theorem areElements_singleton_iff (part : List Char) :
    AreElements [part] ↔ ¬ HasBareSeparator part :=
  ⟨fun h => h.bare part (by simp), fun h => ⟨by simpa using h, by simp⟩⟩

theorem areElements_cons_cons_iff (part other : List Char) (parts : List (List Char)) :
    AreElements (part :: other :: parts) ↔
      (¬ HasBareSeparator part ∧ nesting part = 0) ∧ AreElements (other :: parts) := by
  constructor
  · intro h
    exact ⟨⟨h.bare part (by simp), h.closed part (by simp)⟩,
      fun p hp => h.bare p (List.mem_cons_of_mem part hp),
      fun p hp => h.closed p (List.mem_cons_of_mem part hp)⟩
  · rintro ⟨⟨hbare, hclosed⟩, h⟩
    exact ⟨List.forall_mem_cons.2 ⟨hbare, h.bare⟩, List.forall_mem_cons.2 ⟨hclosed, h.closed⟩⟩

theorem AreElements.cons {part : List Char} {parts : List (List Char)} (h : AreElements parts)
    (hbare : ¬ HasBareSeparator part) (hclosed : nesting part = 0) : AreElements (part :: parts) := by
  cases parts with
  | nil => exact (areElements_singleton_iff part).2 hbare
  | cons other parts => exact (areElements_cons_cons_iff part other parts).2 ⟨⟨hbare, hclosed⟩, h⟩

/-- **Every text is split into elements.** -/
theorem areElements_split (s : List Char) : AreElements (split s) := by
  induction s using split_induction with
  | nil => exact areElements_nil
  | single s hbare hne =>
      rw [split_of_not_hasBareSeparator hbare hne]
      exact (areElements_singleton_iff s).2 hbare
  | append front rest hbare hclosed ih =>
      rw [split_append_separator hbare hclosed]
      exact ih.cons hbare hclosed

theorem split_eq_nil_iff (s : List Char) : split s = [] ↔ s = [] := by
  refine ⟨fun h => ?_, fun h => h ▸ split_nil⟩
  induction s using split_induction with
  | nil => rfl
  | single s hbare hne =>
      rw [split_of_not_hasBareSeparator hbare hne] at h
      cases h
  | append front rest hbare hclosed _ =>
      rw [split_append_separator hbare hclosed] at h
      cases h

/-! ### Joining -/

theorem joinWith_cons_of_ne_nil (part : List Char) {parts : List (List Char)} (h : parts ≠ []) :
    Text.joinWith separator (part :: parts) =
      part ++ separator ++ Text.joinWith separator parts := by
  cases parts with
  | nil => exact absurd rfl h
  | cons other parts => rfl

/-- **The elements of a text are joined to the text,** but for a separator at its very end.  The
last element is empty only if there is such a separator. -/
theorem eq_joinWith_split (s : List Char) :
    (s = Text.joinWith separator (split s) ∧ (split s).getLast? ≠ some []) ∨
      s = Text.joinWith separator (split s) ++ separator := by
  induction s using split_induction with
  | nil => exact .inl ⟨rfl, by simp [split_nil]⟩
  | single s hbare hne =>
      rw [split_of_not_hasBareSeparator hbare hne]
      exact .inl ⟨rfl, by simpa using hne⟩
  | append front rest hbare hclosed ih =>
      rw [split_append_separator hbare hclosed]
      by_cases hrest : rest = []
      · exact .inr (by simp [hrest, split_nil, Text.joinWith])
      · have hsplit : split rest ≠ [] := mt (split_eq_nil_iff rest).1 hrest
        rw [joinWith_cons_of_ne_nil front hsplit]
        rcases ih with ⟨hjoin, hlast⟩ | hjoin
        · refine .inl ⟨congrArg (front ++ separator ++ ·) hjoin, ?_⟩
          rwa [List.getLast?_cons_of_ne_nil hsplit]
        · refine .inr ?_
          rw [List.append_assoc (front ++ separator)]
          exact congrArg (front ++ separator ++ ·) hjoin

/-- Elements of which the last one is not empty are given back. -/
theorem AreElements.split_joinWith {parts : List (List Char)} (h : AreElements parts)
    (hlast : parts.getLast? ≠ some []) : split (Text.joinWith separator parts) = parts := by
  induction parts with
  | nil => rfl
  | cons part parts ih =>
      cases parts with
      | nil =>
          have hne : part ≠ [] := by simpa using hlast
          exact split_of_not_hasBareSeparator ((areElements_singleton_iff part).1 h) hne
      | cons other parts =>
          obtain ⟨⟨hbare, hclosed⟩, hrest⟩ := (areElements_cons_cons_iff part other parts).1 h
          have hlast' : (other :: parts).getLast? ≠ some [] := by simpa using hlast
          rw [joinWith_cons_of_ne_nil part (List.cons_ne_nil other parts),
            split_append_separator hbare hclosed, ih hrest hlast']

/-- **The lists that are given back by splitting what was joined.** -/
theorem split_joinWith_iff (parts : List (List Char)) :
    split (Text.joinWith separator parts) = parts ↔
      AreElements parts ∧ parts.getLast? ≠ some [] := by
  refine ⟨fun h => ?_, fun h => h.1.split_joinWith h.2⟩
  refine ⟨h ▸ areElements_split _, ?_⟩
  rcases eq_joinWith_split (Text.joinWith separator parts) with ⟨-, hlast⟩ | hjoin
  · rwa [h] at hlast
  · -- The joined text would be longer than itself.
    rw [h, List.self_eq_append_right] at hjoin
    cases hjoin

/-! ### Strings -/

theorem map_toList_splitText (s : String) : (splitText s).map String.toList = split s.toList := by
  simp [splitText, Function.comp_def]

theorem splitText_eq_iff (s : String) (parts : List String) :
    splitText s = parts ↔ split s.toList = parts.map String.toList := by
  rw [← map_toList_splitText, List.map_inj_right fun _ _ => String.toList_inj.1]

theorem getLast?_map_toList_ne (texts : List String) :
    (texts.map String.toList).getLast? ≠ some [] ↔ texts.getLast? ≠ some "" := by
  simp [List.getLast?_map]

/-- **The argument types that are given back by splitting what was joined.** -/
theorem splitText_join_iff (argTypes : List String) :
    splitText (Text.join ", " argTypes) = argTypes ↔
      AreElements (argTypes.map String.toList) ∧ argTypes.getLast? ≠ some "" := by
  rw [splitText_eq_iff, Text.toList_join, ← getLast?_map_toList_ne]
  exact split_joinWith_iff (argTypes.map String.toList)

/-- **Splitting undoes joining, and joining undoes splitting.**  Argument types with closed brackets
and without bare separators, of which the last one is not empty, are given back.  The elements of
any text hold no bare separator, and they are joined to the text, but for a separator at its very
end. -/
theorem split_inverts_join :
    (∀ argTypes : List String,
      (∀ argType ∈ argTypes, nesting argType.toList = 0 ∧ ¬ HasBareSeparator argType.toList) →
      argTypes.getLast? ≠ some "" → splitText (Text.join ", " argTypes) = argTypes) ∧
    ∀ s : String,
      (s = Text.join ", " (splitText s) ∨ s = Text.join ", " (splitText s) ++ ", ") ∧
      ∀ part ∈ splitText s, ¬ HasBareSeparator part.toList := by
  constructor
  · intro argTypes hall hlast
    refine (splitText_join_iff argTypes).2 ⟨⟨?_, ?_⟩, hlast⟩
    · intro part hpart
      obtain ⟨argType, hmem, rfl⟩ := List.mem_map.1 hpart
      exact (hall argType hmem).2
    · intro part hpart
      obtain ⟨argType, hmem, rfl⟩ := List.mem_map.1 ((List.dropLast_sublist _).subset hpart)
      exact (hall argType hmem).1
  · intro s
    have hjoin := eq_joinWith_split s.toList
    rw [← map_toList_splitText, ← show ", ".toList = separator from rfl, ← Text.toList_join,
      ← String.toList_append] at hjoin
    refine ⟨hjoin.imp (fun h => String.toList_inj.1 h.1) String.toList_inj.1, ?_⟩
    intro part hpart
    refine (areElements_split s.toList).bare part.toList ?_
    rw [← map_toList_splitText]
    exact List.mem_map_of_mem hpart

/-- Separators between brackets, of which one pair stands the wrong way round, an empty argument
type, a comma in front of a separator and a space behind one. -/
theorem split_inverts_join_brackets :
    (∀ argType ∈ ["array(float32, 1d, A)", "", "a,", "]p, q[", " b"],
      nesting argType.toList = 0 ∧ ¬ HasBareSeparator argType.toList) ∧
    splitText (Text.join ", " ["array(float32, 1d, A)", "", "a,", "]p, q[", " b"]) =
      ["array(float32, 1d, A)", "", "a,", "]p, q[", " b"] := by
  have hall : ∀ argType ∈ ["array(float32, 1d, A)", "", "a,", "]p, q[", " b"],
      nesting argType.toList = 0 ∧ ¬ HasBareSeparator argType.toList := by
    decide +kernel
  exact ⟨hall, split_inverts_join.1 _ hall (by decide)⟩

end JitExplorer.ArgumentList
