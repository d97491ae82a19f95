/-
**The lines of a text as an editor counts them.**

An editor ends a line at a newline, at a carriage return, or at the two together.  A place in a line
is a number of sixteen-bit units, of which a character takes one or two.

The pieces between newlines differ from these lines in two ways.  A return in front of a newline
stays in the piece, and a return that stands alone ends no piece, so that the lines behind it have
other numbers.

Main definitions:

* `Text.editorLines` — the lines of a text as an editor counts them;
* `Text.units16`, `Text.editorLength` — sixteen-bit units, and the places of a line;
* `Text.PairsReturns` — no carriage return stands alone.

Main results:

* `Text.editorLength_eq` — a line has a place for each character, and another one for each wide one;
* `Text.editorLines_of_pairsReturns` — if no return stands alone, the lines are the pieces without
  their returns.
-/

import JitExplorer.Proofs.Text.Encoding

set_option autoImplicit false

namespace JitExplorer.Text

/-! ### Places -/

/-- The sixteen-bit units of a character: itself, or a pair that stands for what exceeds them. -/
def units16 (c : Char) : List Nat :=
  if c.toNat < 0x10000 then [c.toNat]
  else [0xD800 + (c.toNat - 0x10000) / 0x400, 0xDC00 + (c.toNat - 0x10000) % 0x400]

/-- **The places that an editor counts in a line.** -/
def editorLength (l : List Char) : Nat :=
  (l.flatMap units16).length

/-- A character does not fit into one sixteen-bit unit. -/
def isWide (c : Char) : Bool :=
  0x10000 ≤ c.toNat

/-- A line has a place for each character, and another one for each wide character. -/
theorem editorLength_eq (l : List Char) : editorLength l = l.length + l.countP isWide := by
  induction l with
  | nil => rfl
  | cons c l ih =>
      have hunits : (units16 c).length = 1 + if isWide c = true then 1 else 0 := by
        unfold units16
        by_cases hc : c.toNat < 0x10000
        · have hnarrow : ¬ isWide c = true := by
            simpa [isWide] using hc
          rw [if_pos hc, if_neg hnarrow]
          rfl
        · have hwide : isWide c = true := by
            simpa [isWide] using hc
          rw [if_neg hc, if_pos hwide]
          rfl
      have hcons : editorLength (c :: l) = (units16 c).length + editorLength l := by
        simp [editorLength]
      rw [hcons, hunits, ih, List.length_cons, List.countP_cons]
      omega

/-! ### Lines -/

/-- **The lines of a text as an editor counts them.** -/
def editorLines (s : List Char) : List (List Char) :=
  pieces (unifyNewlines s)

/-- **No carriage return stands alone:** each of them is followed by a newline. -/
def PairsReturns : List Char → Prop
  | [] => True
  | c :: s => (c = '\r' → s.head? = some '\n') ∧ PairsReturns s

instance decidablePairsReturns : DecidablePred PairsReturns
  | [] => inferInstanceAs (Decidable True)
  | c :: s =>
      haveI := decidablePairsReturns s
      inferInstanceAs (Decidable ((c = '\r' → s.head? = some '\n') ∧ PairsReturns s))

theorem editorLines_of_notMem {s : List Char} (h : '\r' ∉ s) : editorLines s = pieces s := by
  rw [editorLines, unifyNewlines_of_notMem h]

/-- What holds no return stays as it is in front of line ends that are unified. -/
theorem unifyNewlines_append_of_notMem {l : List Char} (h : '\r' ∉ l) (s : List Char) :
    unifyNewlines (l ++ s) = l ++ unifyNewlines s := by
  induction l with
  | nil => rfl
  | cons c l ih =>
      rw [List.mem_cons, not_or] at h
      have hc : c ≠ '\r' := fun heq => h.1 heq.symm
      rw [List.cons_append, unifyNewlines, ih h.2, if_neg hc, List.cons_append]
      exact fun _ heq => absurd heq hc

/-- The characters of a piece are characters of the text. -/
theorem mem_of_mem_pieces {s l : List Char} (h : l ∈ pieces s) : ∀ c ∈ l, c ∈ s := by
  induction s generalizing l with
  | nil =>
      obtain rfl := List.mem_singleton.1 h
      exact fun c hc => hc
  | cons d s ih =>
      unfold pieces at h
      split at h
      · rcases List.mem_cons.1 h with rfl | h
        · exact fun c hc => absurd hc List.not_mem_nil
        · exact fun c hc => List.mem_cons_of_mem d (ih h c hc)
      · obtain ⟨m, ms, hms⟩ := List.exists_cons_of_ne_nil (pieces_ne_nil s)
        rw [hms] at h ih
        rcases List.mem_cons.1 h with rfl | h
        · intro c hc
          rcases List.mem_cons.1 hc with rfl | hc
          · exact List.mem_cons_self
          · exact List.mem_cons_of_mem d (ih List.mem_cons_self c hc)
        · exact fun c hc => List.mem_cons_of_mem d (ih (List.mem_cons_of_mem m h) c hc)

/-- If no return stands alone, unifying the line ends takes the returns away. -/
theorem unifyNewlines_of_pairsReturns {s : List Char} (h : PairsReturns s) :
    unifyNewlines s = s.filter (· != '\r') := by
  induction s using unifyNewlines.induct with
  | case1 => rfl
  | case2 s ih =>
      rw [unifyNewlines, ih h.2.2]
      rfl
  | case3 c s hpair ih =>
      have hc : c ≠ '\r' := by
        rintro rfl
        obtain ⟨rest, rfl⟩ := List.head?_eq_some_iff.1 (h.1 rfl)
        exact hpair rest rfl rfl
      rw [unifyNewlines.eq_3 c s hpair, if_neg hc, ih h.2, List.filter_cons_of_pos (by simpa)]

theorem map_filter_consHead {c : Char} (hc : c ≠ '\r') {ls : List (List Char)} (hne : ls ≠ []) :
    (consHead c ls).map (List.filter (· != '\r')) =
      consHead c (ls.map (List.filter (· != '\r'))) := by
  obtain ⟨l, ls, rfl⟩ := List.exists_cons_of_ne_nil hne
  simp [consHead, hc]

/-- Returns may be taken out of a text or out of its pieces. -/
theorem pieces_filter_return (s : List Char) :
    pieces (s.filter (· != '\r')) = (pieces s).map (List.filter (· != '\r')) := by
  induction s with
  | nil => rfl
  | cons c s ih =>
      by_cases hreturn : c = '\r'
      · subst hreturn
        obtain ⟨l, ls, hs⟩ := List.exists_cons_of_ne_nil (pieces_ne_nil s)
        rw [List.filter_cons_of_neg (by simp), ih, pieces, if_neg (by decide), hs]
        simp [consHead]
      · rw [List.filter_cons_of_pos (by simpa), pieces, pieces, ih]
        split
        · rfl
        · rw [map_filter_consHead hreturn (pieces_ne_nil s)]

/-- **If no return stands alone, the lines of an editor are the pieces without their returns.** -/
theorem editorLines_of_pairsReturns {s : List Char} (h : PairsReturns s) :
    editorLines s = (pieces s).map (List.filter (· != '\r')) := by
  rw [editorLines, unifyNewlines_of_pairsReturns h, pieces_filter_return]

end JitExplorer.Text
