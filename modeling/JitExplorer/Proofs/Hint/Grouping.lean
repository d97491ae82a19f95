/-
**Hints as a grouping of blocks.**

The hints of a range are a grouping of its blocks by their lines: one hint for each line that owns a
block, in ascending order, with the blocks of the line in the order in which they came.  The blocks
themselves may come in any order, on any lines.  If the editor's library takes the places that the
protocol allows, then no hint of such a place is refused for it; and if a block of the range counts
more lines than can be written as a numeral, then there are no hints at all.

Each block that is taken goes behind the others of its line.  So what a line owns is known from the
last block on, and so are the lines: none is grouped twice, and sorting them loses none.  A range
that is cut in two has the hints of the first part in front of those of the second one: both sides
are ascending and show the same lines, and lines that ascend are known by their members.

Main definitions:

* `Hint.groupsOf`, `Hint.rangeLines` — the groups of visible blocks, and the lines of a range;
* `Hint.ofGroup` — the hint that a line is to have;
* `Hint.IsGrouping` — some hints are the grouping of the blocks of a range.

Main results:

* `Hint.ownedBy_addBlock`, `Hint.ownedBy_groupsOf` — what one block changes, and what a line owns in
  the end;
* `Hint.pairwise_rangeLines`, `Hint.mem_rangeLines_iff` — the lines of a range;
* `Hint.rangeLines_append` — the lines of a range that is cut in two;
* `Hint.build_eq_ok`, `Hint.build_eq_error` — the hints of a range, with and without short counts;
* `Hint.build_groups` — **the hints of a range group its blocks by lines;**
* `Hint.exists_uncounted` — a block whose lines are too many for a numeral.
-/

import JitExplorer.Hint
import Mathlib.Data.List.Induction
import Mathlib.Data.List.Sort

set_option autoImplicit false

namespace JitExplorer.Hint

/-! ### Sorted lines -/

/-- A line is added where it belongs. -/
theorem pairwise_insertLine (line : Int) {lines : List Int} (h : lines.Pairwise (· ≤ ·)) :
    (insertLine line lines).Pairwise (· ≤ ·) := by
  induction lines with
  | nil => exact List.pairwise_singleton _ line
  | cons other lines ih =>
      obtain ⟨hother, hlines⟩ := List.pairwise_cons.1 h
      unfold insertLine
      split
      · rename_i hle
        refine List.pairwise_cons.2 ⟨?_, h⟩
        intro x hx
        rcases List.mem_cons.1 hx with rfl | hx
        · exact hle
        · exact hle.trans (hother x hx)
      · refine List.pairwise_cons.2 ⟨?_, ih hlines⟩
        intro x hx
        rcases List.mem_cons.1 ((insertLine_perm line lines).subset hx) with rfl | hx
        · omega
        · exact hother x hx

theorem pairwise_sortLines (lines : List Int) : (sortLines lines).Pairwise (· ≤ ·) := by
  induction lines with
  | nil => exact List.Pairwise.nil
  | cons line lines ih => exact pairwise_insertLine line ih

theorem sortLines_perm (lines : List Int) : (sortLines lines).Perm lines := by
  induction lines with
  | nil => exact .refl _
  | cons line lines ih => exact (insertLine_perm line (sortLines lines)).trans (ih.cons line)

/-- Lines that are not listed twice ascend strictly once they are sorted. -/
theorem pairwise_lt_sortLines {lines : List Int} (h : lines.Nodup) :
    (sortLines lines).Pairwise (· < ·) := by
  have hne : (sortLines lines).Pairwise (· ≠ ·) := (sortLines_perm lines).nodup_iff.2 h
  exact ((pairwise_sortLines lines).and hne).imp fun h => lt_of_le_of_ne h.1 h.2

/-! ### Groups -/

/-- A line that has no blocks yet comes last. -/
theorem map_fst_addBlock (line : Int) (block : Block) (groups : Groups) :
    (addBlock line block groups).map Prod.fst =
      if line ∈ groups.map Prod.fst then groups.map Prod.fst
      else groups.map Prod.fst ++ [line] := by
  induction groups with
  | nil => rfl
  | cons group groups ih =>
      obtain ⟨other, owned⟩ := group
      by_cases hother : other = line
      · simp [addBlock, hother]
      · simp only [addBlock, if_neg hother, List.map_cons, ih, List.mem_cons, Ne.symm hother,
          false_or]
        split <;> rfl

/-- A block comes last among those of its line, and the other lines keep theirs. -/
theorem ownedBy_addBlock (line : Int) (block : Block) (groups : Groups) (asked : Int) :
    ownedBy (addBlock line block groups) asked =
      ownedBy groups asked ++ if line = asked then [block] else [] := by
  induction groups with
  | nil =>
      by_cases hasked : asked = line
      · simp [addBlock, ownedBy, hasked]
      · simp [addBlock, ownedBy, List.lookup_cons, beq_false_of_ne hasked, Ne.symm hasked]
  | cons group groups ih =>
      obtain ⟨other, owned⟩ := group
      simp only [ownedBy] at ih ⊢
      by_cases hother : other = line
      · by_cases hasked : asked = line
        · simp [addBlock, hother, hasked]
        · simp [addBlock, hother, List.lookup_cons, beq_false_of_ne hasked, Ne.symm hasked]
      · by_cases hasked : asked = other
        · simp [addBlock, hother, hasked, Ne.symm hother]
        · simp [addBlock, hother, List.lookup_cons, beq_false_of_ne hasked, ih]

/-- The groups of blocks that are all visible. -/
def groupsOf (blocks : List Block) : Groups :=
  blocks.foldl (fun groups block => addBlock (lineOf block) block groups) []

theorem collect_eq_groupsOf (first last : Int) (blocks : List Block) :
    collect first last blocks = groupsOf (blocks.filter (isVisible first last)) :=
  List.foldl_filter.symm

theorem groupsOf_concat (blocks : List Block) (block : Block) :
    groupsOf (blocks ++ [block]) = addBlock (lineOf block) block (groupsOf blocks) := by
  simp only [groupsOf, List.foldl_append, List.foldl_cons, List.foldl_nil]

/-- The lines of the groups, in the order in which they came first. -/
def linesOf (blocks : List Block) : List Int :=
  (groupsOf blocks).map Prod.fst

theorem linesOf_concat (blocks : List Block) (block : Block) :
    linesOf (blocks ++ [block]) =
      if lineOf block ∈ linesOf blocks then linesOf blocks else linesOf blocks ++ [lineOf block] := by
  rw [linesOf, groupsOf_concat, map_fst_addBlock]
  rfl

/-- No line is grouped twice. -/
theorem nodup_linesOf (blocks : List Block) : (linesOf blocks).Nodup := by
  -- Blocks come in at the end, so the induction takes the last one off.
  induction blocks using List.reverseRecOn with
  | nil => exact List.nodup_nil
  | append_singleton blocks block ih =>
      rw [linesOf_concat]
      split
      · exact ih
      · rename_i hnew
        refine List.nodup_append.2 ⟨ih, List.nodup_singleton _, ?_⟩
        rintro line hline _ hlast rfl
        exact hnew (List.mem_singleton.1 hlast ▸ hline)

theorem mem_linesOf_iff (blocks : List Block) (line : Int) :
    line ∈ linesOf blocks ↔ ∃ block ∈ blocks, lineOf block = line := by
  induction blocks using List.reverseRecOn with
  | nil => simp [linesOf, groupsOf]
  | append_singleton blocks block ih =>
      have hlast : (∃ b ∈ blocks ++ [block], lineOf b = line) ↔
          (∃ b ∈ blocks, lineOf b = line) ∨ lineOf block = line := by
        simp [or_and_right, exists_or]
      rw [hlast, ← ih, linesOf_concat]
      split
      · rename_i hold
        exact ⟨.inl, fun h => h.elim id fun h => h ▸ hold⟩
      · rw [List.mem_append, List.mem_singleton, eq_comm]

/-- **The blocks of a line** stay in their order. -/
theorem ownedBy_groupsOf (blocks : List Block) (line : Int) :
    ownedBy (groupsOf blocks) line = blocks.filter fun block => lineOf block = line := by
  induction blocks using List.reverseRecOn with
  | nil => rfl
  | append_singleton blocks block ih =>
      rw [groupsOf_concat, ownedBy_addBlock, ih, List.filter_append]
      by_cases hline : lineOf block = line
      · simp [hline]
      · simp [hline]

/-! ### The lines of a range -/

section Range

variable (blocks : List Block) (first last : Int)

/-- The lines of a range that own a block, in ascending order. -/
def rangeLines : List Int :=
  sortLines (linesOf (blocks.filter (isVisible first last)))

theorem pairwise_rangeLines : (rangeLines blocks first last).Pairwise (· < ·) :=
  pairwise_lt_sortLines (nodup_linesOf _)

theorem mem_rangeLines_iff (line : Int) :
    line ∈ rangeLines blocks first last ↔
      first ≤ line ∧ line ≤ last ∧ ∃ block ∈ blocks, lineOf block = line := by
  rw [rangeLines, (sortLines_perm _).mem_iff, mem_linesOf_iff]
  simp only [List.mem_filter, isVisible, Bool.and_eq_true, decide_eq_true_eq]
  constructor
  · rintro ⟨block, ⟨hblock, hfirst, hlast⟩, rfl⟩
    exact ⟨hfirst, hlast, block, hblock, rfl⟩
  · rintro ⟨hfirst, hlast, block, hblock, rfl⟩
    exact ⟨block, ⟨hblock, hfirst, hlast⟩, rfl⟩

/-- **The lines of a range that is cut in two.** -/
theorem rangeLines_append {mid : Int} (hfirst : first - 1 ≤ mid) (hlast : mid ≤ last) :
    rangeLines blocks first last =
      rangeLines blocks first mid ++ rangeLines blocks (mid + 1) last := by
  -- Both sides ascend, so it is enough that they have the same members.
  refine (pairwise_rangeLines _ _ _).eq_of_mem_iff ?_ ?_
  · refine List.pairwise_append.2 ⟨pairwise_rangeLines _ _ _, pairwise_rangeLines _ _ _, ?_⟩
    intro x hx y hy
    have hmid := ((mem_rangeLines_iff blocks first mid x).1 hx).2.1
    have hbeyond := ((mem_rangeLines_iff blocks (mid + 1) last y).1 hy).1
    omega
  · intro line
    simp only [List.mem_append, mem_rangeLines_iff, ← or_and_right, ← and_assoc]
    refine and_congr_left fun _ => ?_
    omega

/-- **The blocks of a visible line** are all blocks of the line, in their order. -/
theorem ownedBy_collect {line : Int} (hfirst : first ≤ line) (hlast : line ≤ last) :
    ownedBy (collect first last blocks) line =
      blocks.filter fun block => lineOf block = line := by
  rw [collect_eq_groupsOf, ownedBy_groupsOf, List.filter_filter]
  refine List.filter_congr fun block _ => ?_
  by_cases hline : lineOf block = line
  · simp [hline, isVisible, hfirst, hlast]
  · simp [hline]

end Range

/-! ### What hints say -/

section Phrases

variable (stage : String) {blocks : List Block}

theorem phrases_of_hasShortCount (h : ∀ block ∈ blocks, HasShortCount block) :
    phrases stage blocks = .ok (blocks.map (wording stage)) := by
  induction blocks with
  | nil => rfl
  | cons block blocks ih =>
      obtain ⟨hblock, hblocks⟩ := List.forall_mem_cons.1 h
      simp only [phrases, phrase_of_hasShortCount hblock, ih hblocks]
      rfl

theorem phrases_of_not_hasShortCount (h : ∃ block ∈ blocks, ¬ HasShortCount block) :
    phrases stage blocks = .error .oversized := by
  induction blocks with
  | nil => exact absurd h (by simp)
  | cons block blocks ih =>
      by_cases hblock : HasShortCount block
      · have hblocks : ∃ block ∈ blocks, ¬ HasShortCount block := by
          simpa [hblock] using h
        simp only [phrases, phrase_of_hasShortCount hblock, ih hblocks]
        rfl
      · simp only [phrases, phrase_of_not_hasShortCount hblock]
        rfl

end Phrases

/-! ### The hint of a line -/

/-- The length of a source line; a line behind the source is empty. -/
def lengthAt (source : List String) (line : Int) : Nat :=
  if h : line.toNat < source.length then source[line.toNat].length else 0

section Line

variable {places : Places} {source : List String} {groups : Groups} {stage : String} {line : Int}

theorem endOfLine_eq_ok (source : List String) (hnonneg : 0 ≤ line) (hmax : line ≤ maxPlace) :
    endOfLine source line = .ok (lengthAt source line) := by
  obtain ⟨n, rfl⟩ := Int.eq_ofNat_of_zero_le hnonneg
  have hword : Index.isWord n = true := by
    simp only [Index.isWord, Bool.and_eq_true, decide_eq_true_eq, maxPlace] at hmax ⊢
    omega
  unfold endOfLine lengthAt
  by_cases hinside : n < source.length
  · simp [hinside, Index.itemAt_natCast source hinside hword]
  · simp [hinside]

theorem lengthAt_le (hsource : ∀ text ∈ source, text.length ≤ maxPlace) (line : Int) :
    lengthAt source line ≤ maxPlace := by
  unfold lengthAt
  split
  · exact hsource _ (List.getElem_mem _)
  · exact Nat.zero_le _

/-- A line that the protocol allows is given its hint, if its blocks can be counted. -/
theorem ofLine_eq_ok (hplaces : places.TakesProtocol) (hnonneg : 0 ≤ line) (hmax : line ≤ maxPlace)
    (hsource : ∀ text ∈ source, text.length ≤ maxPlace)
    (hshort : ∀ block ∈ ownedBy groups line, HasShortCount block) :
    ofLine places source stage groups line =
      .ok ⟨line, lengthAt source line,
        Text.join " | " ((ownedBy groups line).map (wording stage))⟩ := by
  have htaken : places line (lengthAt source line) = .ok () :=
    hplaces _ _ hnonneg hmax (lengthAt_le hsource line)
  simp only [ofLine, endOfLine_eq_ok source hnonneg hmax, phrases_of_hasShortCount stage hshort]
  change (places line (lengthAt source line) >>= fun _ => _) = _
  rw [htaken]
  rfl

/-- A line with a block that cannot be counted is given no hint. -/
theorem ofLine_eq_error (hnonneg : 0 ≤ line) (hmax : line ≤ maxPlace)
    (hlong : ∃ block ∈ ownedBy groups line, ¬ HasShortCount block) :
    ofLine places source stage groups line = .error .oversized := by
  simp only [ofLine, endOfLine_eq_ok source hnonneg hmax, phrases_of_not_hasShortCount stage hlong]
  rfl

/-- Lines that are each given a hint are given their hints in order. -/
theorem ofLines_eq_ok {f : Int → Hint} {lines : List Int}
    (h : ∀ line ∈ lines, ofLine places source stage groups line = .ok (f line)) :
    ofLines places source stage groups lines = .ok (lines.map f) := by
  induction lines with
  | nil => rfl
  | cons line lines ih =>
      obtain ⟨hline, hlines⟩ := List.forall_mem_cons.1 h
      simp only [ofLines, hline, ih hlines]
      rfl

/-- If some lines fail, and all in the same way, then there are no hints. -/
theorem ofLines_eq_error {failure : Failure} {lines : List Int}
    (hall : ∀ line ∈ lines, ∀ other, ofLine places source stage groups line = .error other →
      other = failure)
    (hsome : ∃ line ∈ lines, ofLine places source stage groups line = .error failure) :
    ofLines places source stage groups lines = .error failure := by
  induction lines with
  | nil => exact absurd hsome (by simp)
  | cons line lines ih =>
      obtain ⟨hline, hlines⟩ := List.forall_mem_cons.1 hall
      cases hfirst : ofLine places source stage groups line with
      | error other =>
          obtain rfl := hline other hfirst
          simp only [ofLines, hfirst]
          rfl
      | ok hint =>
          have hrest : ∃ line ∈ lines, ofLine places source stage groups line = .error failure := by
            simpa [hfirst] using hsome
          simp only [ofLines, hfirst, ih hlines hrest]
          rfl

end Line

/-! ### The hints of a range -/

/-- **The hint that a line is to have.** -/
def ofGroup (blocks : List Block) (source : List String) (stage : String) (line : Int) : Hint where
  line := line
  character := lengthAt source line
  label := Text.join " | " ((blocks.filter fun block => lineOf block = line).map (wording stage))

/-- The blocks of a range can be counted. -/
def HasShortCounts (blocks : List Block) (first last : Int) : Prop :=
  ∀ block ∈ blocks, first ≤ block.line - 1 → block.line - 1 ≤ last → HasShortCount block

instance (blocks : List Block) (first last : Int) : Decidable (HasShortCounts blocks first last) :=
  inferInstanceAs (Decidable (∀ block ∈ blocks, _ → _ → _))

theorem HasShortCounts.mono {blocks : List Block} {first last start stop : Int}
    (h : HasShortCounts blocks first last) (hfirst : first ≤ start) (hlast : stop ≤ last) :
    HasShortCounts blocks start stop :=
  fun block hblock hstart hstop => h block hblock (hfirst.trans hstart) (hstop.trans hlast)

section Build

variable {places : Places} (blocks : List Block) {source : List String} (stage : String)
  {first last : Int}

theorem build_eq_ofLines :
    build places source stage blocks first last =
      ofLines places source stage (collect first last blocks) (rangeLines blocks first last) := by
  have hlines : sortLines ((collect first last blocks).map Prod.fst) =
      rangeLines blocks first last := by
    rw [collect_eq_groupsOf]
    rfl
  rw [build, hlines]

/-- **The hints of a range that the protocol allows,** if its blocks can be counted. -/
theorem build_eq_ok (hplaces : places.TakesProtocol)
    (hsource : ∀ text ∈ source, text.length ≤ maxPlace) (hfirst : 0 ≤ first)
    (hlast : last ≤ maxPlace) (hshort : HasShortCounts blocks first last) :
    build places source stage blocks first last =
      .ok ((rangeLines blocks first last).map (ofGroup blocks source stage)) := by
  rw [build_eq_ofLines]
  refine ofLines_eq_ok fun line hline => ?_
  obtain ⟨hbehind, hbefore, -⟩ := (mem_rangeLines_iff blocks first last line).1 hline
  have howned := ownedBy_collect blocks first last hbehind hbefore
  have hcounted : ∀ block ∈ ownedBy (collect first last blocks) line, HasShortCount block := by
    intro block hblock
    rw [howned, List.mem_filter, decide_eq_true_eq] at hblock
    obtain ⟨hblock, rfl⟩ := hblock
    exact hshort block hblock hbehind hbefore
  rw [ofLine_eq_ok hplaces (hfirst.trans hbehind) (hbefore.trans hlast) hsource hcounted, howned]
  rfl

/-- **A range with a block that cannot be counted has no hints.** -/
theorem build_eq_error (hplaces : places.TakesProtocol)
    (hsource : ∀ text ∈ source, text.length ≤ maxPlace) (hfirst : 0 ≤ first)
    (hlast : last ≤ maxPlace) (hlong : ¬ HasShortCounts blocks first last) :
    build places source stage blocks first last = .error .oversized := by
  obtain ⟨block, hblock, hbehind, hbefore, hcount⟩ : ∃ block ∈ blocks,
      first ≤ lineOf block ∧ lineOf block ≤ last ∧ ¬ HasShortCount block := by
    simpa [HasShortCounts, lineOf] using hlong
  rw [build_eq_ofLines]
  refine ofLines_eq_error ?_ ⟨lineOf block, ?_, ?_⟩
  · -- A line fails only if it has a block that cannot be counted.
    intro line hline other hother
    obtain ⟨hbehind, hbefore, -⟩ := (mem_rangeLines_iff blocks first last line).1 hline
    by_cases hcounted : ∀ block ∈ ownedBy (collect first last blocks) line, HasShortCount block
    · rw [ofLine_eq_ok hplaces (hfirst.trans hbehind) (hbefore.trans hlast) hsource hcounted]
        at hother
      cases hother
    · rw [ofLine_eq_error (hfirst.trans hbehind) (hbefore.trans hlast) (by simpa using hcounted)]
        at hother
      exact (Except.error.inj hother).symm
  · exact (mem_rangeLines_iff blocks first last _).2 ⟨hbehind, hbefore, block, hblock, rfl⟩
  · refine ofLine_eq_error (hfirst.trans hbehind) (hbefore.trans hlast) ⟨block, ?_, hcount⟩
    rw [ownedBy_collect blocks first last hbehind hbefore]
    simpa using hblock

/-- **Some hints are the grouping of the blocks of a range:** they stand on ascending lines, these
are the lines of the range that own a block, each names all blocks of its line in their order, and
each stands at the end of its line. -/
structure IsGrouping (blocks : List Block) (source : List String) (first last : Int)
    (stage : String) (hints : List Hint) : Prop where
  ascending : hints.Pairwise fun hint later => hint.line < later.line
  line_iff : ∀ line, (∃ hint ∈ hints, hint.line = line) ↔
    first ≤ line ∧ line ≤ last ∧ ∃ block ∈ blocks, block.line - 1 = line
  label : ∀ hint ∈ hints, hint.label = Text.join " | "
    ((blocks.filter fun block => block.line - 1 = hint.line).map fun block =>
      block.name ++ "(" ++ block.args ++ "): " ++ Text.intText block.lineCount ++ " lines " ++ stage)
  character : ∀ hint ∈ hints, hint.character =
    if h : hint.line.toNat < source.length then source[hint.line.toNat].length else 0

/-- **The hints of a range group its blocks by lines.**  If the line counts of its blocks can be
written as numerals, then none is refused whose line and end of the line are places of the protocol;
and a range that is cut in two has the hints of the first part in front of those of the second one.
A single block of the range whose lines are too many for a numeral leaves the whole range without
hints. -/
theorem build_groups (hplaces : places.TakesProtocol)
    (hsource : ∀ text ∈ source, text.length ≤ maxPlace) (hfirst : 0 ≤ first)
    (hlast : last ≤ maxPlace) :
    (HasShortCounts blocks first last →
      ∃ hints, build places source stage blocks first last = .ok hints ∧
        IsGrouping blocks source first last stage hints ∧
        ∀ mid, first - 1 ≤ mid → mid ≤ last →
          ∃ front back, build places source stage blocks first mid = .ok front ∧
            build places source stage blocks (mid + 1) last = .ok back ∧ hints = front ++ back) ∧
    (¬ HasShortCounts blocks first last →
      build places source stage blocks first last = .error .oversized) := by
  refine ⟨fun hshort => ⟨_, build_eq_ok blocks stage hplaces hsource hfirst hlast hshort, ?_, ?_⟩,
    build_eq_error blocks stage hplaces hsource hfirst hlast⟩
  · constructor
    · exact List.pairwise_map.2 (pairwise_rangeLines blocks first last)
    · intro line
      refine Iff.trans ?_ (mem_rangeLines_iff blocks first last line)
      simp [ofGroup]
    · intro hint hhint
      obtain ⟨line, -, rfl⟩ := List.mem_map.1 hhint
      rfl
    · intro hint hhint
      obtain ⟨line, -, rfl⟩ := List.mem_map.1 hhint
      rfl
  · intro mid hbehind hbefore
    refine ⟨_, _,
      build_eq_ok blocks stage hplaces hsource hfirst (hbefore.trans hlast)
        (hshort.mono (le_refl first) hbefore),
      build_eq_ok blocks stage hplaces hsource (by omega) hlast
        (hshort.mono (by omega) (le_refl last)), ?_⟩
    rw [rangeLines_append blocks first last hbehind hbefore, List.map_append]

end Build

/-- Two specializations on one line with another line between them, one behind the source, and lines
that no editor can have. -/
def scatteredBlocks : List Block :=
  [⟨2, 3, "f", "int32", ""⟩, ⟨9, 1, "g", "", ""⟩, ⟨0, 1, "h", "", ""⟩, ⟨2, 4, "f", "float64", ""⟩,
    ⟨2147483649, 1, "h", "", ""⟩]

/-- The hints of all lines, and of the lines in front of the fifth one and behind it. -/
theorem build_groups_scattered :
    protocolPlaces.TakesProtocol ∧ (∀ text ∈ ["@jit", "def f(x):"], text.length ≤ maxPlace) ∧
    (0 : Int) ≤ 0 ∧ (maxPlace : Int) ≤ maxPlace ∧ HasShortCounts scatteredBlocks 0 maxPlace ∧
    ∃ hints, hints = [⟨1, 9, "f(int32): 3 lines native | f(float64): 4 lines native"⟩,
        ⟨8, 0, "g(): 1 lines native"⟩] ∧
      build protocolPlaces ["@jit", "def f(x):"] "native" scatteredBlocks 0 maxPlace = .ok hints ∧
      IsGrouping scatteredBlocks ["@jit", "def f(x):"] 0 maxPlace "native" hints ∧
      ∃ front back,
        build protocolPlaces ["@jit", "def f(x):"] "native" scatteredBlocks 0 4 = .ok front ∧
        build protocolPlaces ["@jit", "def f(x):"] "native" scatteredBlocks (4 + 1) maxPlace =
          .ok back ∧
        hints = front ++ back := by
  have hsource : ∀ text ∈ ["@jit", "def f(x):"], text.length ≤ maxPlace := by decide +kernel
  have hshort : HasShortCounts scatteredBlocks 0 maxPlace := by decide +kernel
  obtain ⟨hints, hbuild, hgroups, hcut⟩ :=
    (build_groups scatteredBlocks "native" takesProtocol_protocolPlaces hsource (le_refl 0)
      (le_refl (maxPlace : Int))).1 hshort
  refine ⟨takesProtocol_protocolPlaces, hsource, le_refl 0, le_refl _, hshort, hints, ?_, hbuild,
    hgroups, hcut 4 (by decide) (by decide)⟩
  have hvalue : build protocolPlaces ["@jit", "def f(x):"] "native" scatteredBlocks 0 maxPlace =
      .ok [⟨1, 9, "f(int32): 3 lines native | f(float64): 4 lines native"⟩,
        ⟨8, 0, "g(): 1 lines native"⟩] := by
    decide +kernel
  exact Except.ok.inj (hbuild.symm.trans hvalue)

/-- More lines than a numeral can write. -/
@[irreducible] def uncountedLines : Nat :=
  Nat.pow 10 Text.maxDigits

/-- A block of that many lines. -/
def uncountedBlock : Block where
  line := 1
  lineCount := uncountedLines
  name := "f"
  args := ""
  text := ""

theorem not_hasShortCount_uncountedBlock : ¬ HasShortCount uncountedBlock := by
  have hcount : uncountedBlock.lineCount.natAbs = uncountedLines := Int.natAbs_natCast _
  have hlong : Nat.pow 10 Text.maxDigits ≤ uncountedLines := by
    unfold uncountedLines
    exact Nat.le_refl _
  rw [HasShortCount, hcount]
  exact Nat.not_le.2 (Text.lt_length_natDigits hlong)

/-- **There is a block that leaves its range without hints:** its lines are too many for a
numeral. -/
theorem exists_uncounted :
    protocolPlaces.TakesProtocol ∧ (∀ text ∈ ["def f():"], text.length ≤ maxPlace) ∧
      build protocolPlaces ["def f():"] "native" [uncountedBlock] 0 0 = .error .oversized := by
  have hsource : ∀ text ∈ ["def f():"], text.length ≤ maxPlace := by decide +kernel
  refine ⟨takesProtocol_protocolPlaces, hsource, ?_⟩
  refine build_eq_error [uncountedBlock] "native" takesProtocol_protocolPlaces hsource (le_refl 0)
    (by decide) fun hshort => not_hasShortCount_uncountedBlock ?_
  exact hshort uncountedBlock (List.mem_singleton.2 rfl) (by decide) (by decide)

end JitExplorer.Hint
