/-
**The metadata that is kept.**

Of the lines that are not debug lines, code is kept without its attachments, and a node is kept
exactly if it is live: code refers to it, or the last definition of a live number does.  Live
numbers are the least set of this kind, so nodes that only refer to each other go, whatever rings
they form.  If no number is defined twice, what is kept refers to no node that is gone.

Main definitions:

* `Metadata.IsDefinition`, `Metadata.Defines` — the last definition of a number;
* `Metadata.Live` — the numbers that are live;
* `Metadata.Keeps` — what is kept of some lines;
* `Metadata.IsDead` — a node is left over when all references were followed.

Main results:

* `Metadata.unreached_induction` — whatever is passed on by references holds of all nodes that are
  reached;
* `Metadata.not_isDead_of_codeReferences`, `Metadata.not_isDead_of_references` — what is referred to
  is reached;
* `Metadata.not_isDead_iff_live` — following references finds exactly the live numbers;
* `Metadata.strip_keeps_live` — **what is kept of a text.**
-/

import JitExplorer.Proofs.Filter.MetadataLine
import Mathlib.Data.List.Nodup

set_option autoImplicit false

namespace JitExplorer.Metadata

/-! ### Following references -/

section Unreached

variable {left : List Node} {pending : List (List Char)}

theorem mem_of_mem_unreached {node : Node} (h : node ∈ unreached left pending) : node ∈ left := by
  induction left, pending using unreached.induct with
  | case1 left => rwa [unreached_nil] at h
  | case2 left number pending hfind ih =>
      rw [unreached, hfind] at h
      exact ih h
  | case3 left number pending other hfind ih =>
      rw [unreached, hfind] at h
      exact List.mem_of_mem_erase (ih h)

/-- Two nodes with the same number are the same if no number has two nodes. -/
theorem eq_of_number_eq (hleft : (left.map Node.number).Nodup) {node other : Node}
    (hnode : node ∈ left) (hother : other ∈ left) (h : node.number = other.number) : node = other :=
  List.inj_on_of_nodup_map hleft hnode hother h

/-- Taking a node out leaves no node with its number. -/
theorem number_ne_of_mem_erase (hleft : (left.map Node.number).Nodup) {node other : Node}
    (hnode : node ∈ left) (hother : other ∈ left.erase node) : other.number ≠ node.number := by
  intro heq
  obtain ⟨hne, hmem⟩ := (List.Nodup.mem_erase_iff (List.Nodup.of_map _ hleft)).1 hother
  exact hne (eq_of_number_eq hleft hmem hnode heq)

theorem nodup_erase (hleft : (left.map Node.number).Nodup) (node : Node) :
    ((left.erase node).map Node.number).Nodup :=
  hleft.sublist (List.erase_sublist.map _)

/-- A number that is referred to has no node left over. -/
theorem number_ne_of_mem_pending (hleft : (left.map Node.number).Nodup) {n : List Char}
    (hn : n ∈ pending) : ∀ node ∈ unreached left pending, node.number ≠ n := by
  induction left, pending using unreached.induct with
  | case1 left => cases hn
  | case2 left number pending hfind ih =>
      rw [unreached, hfind]
      intro node hnode
      rcases List.mem_cons.1 hn with rfl | hn
      · simpa using List.find?_eq_none.1 hfind node (mem_of_mem_unreached hnode)
      · exact ih hleft hn node hnode
  | case3 left number pending other hfind ih =>
      rw [unreached, hfind]
      have hother := List.mem_of_find?_eq_some hfind
      have hnumber : other.number = number := by simpa using List.find?_some hfind
      intro node hnode
      rcases List.mem_cons.1 hn with rfl | hn
      · exact hnumber ▸ number_ne_of_mem_erase hleft hother (mem_of_mem_unreached hnode)
      · exact ih (nodup_erase hleft other) (List.mem_append_right _ hn) node hnode

/-- A number that a reached node refers to has no node left over. -/
theorem number_ne_of_mem_references (hleft : (left.map Node.number).Nodup) {node : Node}
    (hnode : node ∈ left) (hreached : node ∉ unreached left pending) {n : List Char}
    (hn : n ∈ node.references) : ∀ other ∈ unreached left pending, other.number ≠ n := by
  induction left, pending using unreached.induct with
  | case1 left => exact absurd hnode (by rwa [unreached_nil] at hreached)
  | case2 left number pending hfind ih =>
      rw [unreached, hfind] at hreached ⊢
      exact ih hleft hnode hreached
  | case3 left number pending next hfind ih =>
      rw [unreached, hfind] at hreached ⊢
      by_cases hnext : node = next
      · subst hnext
        exact number_ne_of_mem_pending (nodup_erase hleft node) (List.mem_append_left _ hn)
      · exact ih (nodup_erase hleft next) ((List.mem_erase_of_ne hnext).2 hnode) hreached

/-- **Whatever holds of the numbers that are referred to, and is passed on by the references of the
nodes, holds of all nodes that are reached.** -/
theorem unreached_induction {P : List Char → Prop} (hpending : ∀ n ∈ pending, P n)
    (hnext : ∀ node ∈ left, P node.number → ∀ n ∈ node.references, P n) {node : Node}
    (hnode : node ∈ left) (hreached : node ∉ unreached left pending) : P node.number := by
  induction left, pending using unreached.induct with
  | case1 left => exact absurd hnode (by rwa [unreached_nil] at hreached)
  | case2 left number pending hfind ih =>
      rw [unreached, hfind] at hreached
      exact ih (fun n hn => hpending n (List.mem_cons_of_mem _ hn)) hnext hnode hreached
  | case3 left number pending next hfind ih =>
      rw [unreached, hfind] at hreached
      have hmem := List.mem_of_find?_eq_some hfind
      have hnumber : next.number = number := by simpa using List.find?_some hfind
      have hholds : P next.number := hpending _ (hnumber ▸ List.mem_cons_self)
      by_cases heq : node = next
      · exact heq ▸ hholds
      · refine ih ?_ ?_ ((List.mem_erase_of_ne heq).2 hnode) hreached
        · intro n hn
          rcases List.mem_append.1 hn with hn | hn
          · exact hnext next hmem hholds n hn
          · exact hpending n (List.mem_cons_of_mem _ hn)
        · intro other hother
          exact hnext other (List.mem_of_mem_erase hother)

end Unreached

/-! ### Dead numbers -/

theorem nodup_nodes (lines : List Line) : ((nodes lines).map Node.number).Nodup := by
  induction lines with
  | nil => exact List.nodup_nil
  | cons line lines ih =>
      cases line with
      | code text => exact ih
      | node number text =>
          rw [nodes]
          split
          · exact ih
          · rename_i hnone
            refine List.nodup_cons.2 ⟨?_, ih⟩
            rintro hmem
            obtain ⟨node, hnode, rfl⟩ := List.mem_map.1 hmem
            exact hnone (List.any_eq_true.2 ⟨node, hnode, beq_self_eq_true _⟩)

/-- A number is dead if its node is left over when all references were followed. -/
def IsDead (lines : List Line) (n : List Char) : Prop :=
  ∃ node ∈ unreached (nodes lines) (codeReferences lines), node.number = n

section IsDead

variable {lines : List Line} {node : Node} {n : List Char}

/-- What code refers to is not dead. -/
theorem not_isDead_of_codeReferences (h : n ∈ codeReferences lines) : ¬ IsDead lines n := by
  rintro ⟨other, hother, rfl⟩
  exact number_ne_of_mem_pending (nodup_nodes lines) h other hother rfl

theorem isDead_iff_mem (hnode : node ∈ nodes lines) :
    IsDead lines node.number ↔ node ∈ unreached (nodes lines) (codeReferences lines) := by
  refine ⟨?_, fun h => ⟨node, h, rfl⟩⟩
  rintro ⟨other, hother, heq⟩
  exact eq_of_number_eq (nodup_nodes lines) (mem_of_mem_unreached hother) hnode heq ▸ hother

/-- What a node that is not dead refers to is not dead. -/
theorem not_isDead_of_references (hnode : node ∈ nodes lines) (hlive : ¬ IsDead lines node.number)
    (h : n ∈ node.references) : ¬ IsDead lines n := by
  rintro ⟨other, hother, rfl⟩
  rw [isDead_iff_mem hnode] at hlive
  exact number_ne_of_mem_references (nodup_nodes lines) hnode hlive h other hother rfl

/-- Whatever holds of what code refers to, and is passed on by nodes, holds of all nodes that are
not dead. -/
theorem not_isDead_induction {P : List Char → Prop} (hcode : ∀ n ∈ codeReferences lines, P n)
    (hnext : ∀ node ∈ nodes lines, P node.number → ∀ n ∈ node.references, P n)
    (hnode : node ∈ nodes lines) (hlive : ¬ IsDead lines node.number) : P node.number := by
  rw [isDead_iff_mem hnode] at hlive
  exact unreached_induction hcode hnext hnode hlive

/-- A node is kept exactly if its number is not dead. -/
theorem isKept_node_iff (n text : List Char) :
    isKept (unreached (nodes lines) (codeReferences lines)) (.node n text) = true ↔
      ¬ IsDead lines n := by
  simp [isKept, IsDead]

end IsDead

/-! ### Definitions -/

/-- A line is the last definition of a number: it defines it, and no line behind it does. -/
def IsDefinition (lines : List (List Char)) (n l : List Char) : Prop :=
  IsNode n l ∧ ∃ front back, lines = front ++ l :: back ∧ ∀ k ∈ back, ¬ IsNode n k

/-- Some line defines a number. -/
def Defines (lines : List (List Char)) (n : List Char) : Prop :=
  ∃ l ∈ lines, IsNode n l

section IsDefinition

variable {lines : List (List Char)} {n l : List Char}

theorem isDefinition_cons_iff (k : List Char) :
    IsDefinition (k :: lines) n l ↔
      IsDefinition lines n l ∨ (k = l ∧ IsNode n l ∧ ¬ Defines lines n) := by
  constructor
  · rintro ⟨hl, front, back, hlines, hback⟩
    cases front with
    | nil =>
        obtain ⟨rfl, rfl⟩ := List.cons.inj hlines
        exact .inr ⟨rfl, hl, fun ⟨m, hm, hnode⟩ => hback m hm hnode⟩
    | cons m front =>
        obtain ⟨rfl, rfl⟩ := List.cons.inj hlines
        exact .inl ⟨hl, front, back, rfl, hback⟩
  · rintro (⟨hl, front, back, rfl, hback⟩ | ⟨rfl, hl, hnone⟩)
    · exact ⟨hl, k :: front, back, rfl, hback⟩
    · exact ⟨hl, [], lines, rfl, fun m hm hnode => hnone ⟨m, hm, hnode⟩⟩

theorem IsDefinition.mem (h : IsDefinition lines n l) : l ∈ lines := by
  obtain ⟨-, front, back, rfl, -⟩ := h
  simp

/-- A number that is defined has a last definition. -/
theorem exists_isDefinition (h : Defines lines n) : ∃ l, IsDefinition lines n l := by
  induction lines with
  | nil =>
      obtain ⟨l, hl, -⟩ := h
      cases hl
  | cons k lines ih =>
      by_cases hlines : Defines lines n
      · obtain ⟨l, hl⟩ := ih hlines
        exact ⟨l, (isDefinition_cons_iff k).2 (.inl hl)⟩
      · obtain ⟨l, hmem, hl⟩ := h
        rcases List.mem_cons.1 hmem with rfl | hmem
        · exact ⟨l, (isDefinition_cons_iff l).2 (.inr ⟨rfl, hl, hlines⟩)⟩
        · exact absurd ⟨l, hmem, hl⟩ hlines

theorem IsDefinition.defines (h : IsDefinition lines n l) : Defines lines n :=
  ⟨l, h.mem, h.1⟩

end IsDefinition

/-! ### Lines that are no debug lines -/

section Lines

variable {lines : List (List Char)} (hlines : ∀ l ∈ lines, ¬ IsDebugLine l)

include hlines

/-- The numbers that code refers to. -/
theorem mem_codeReferences_iff (n : List Char) :
    n ∈ codeReferences (lines.filterMap Line.ofText?) ↔
      ∃ l ∈ lines, IsCode l ∧ ∃ t, Erases l t ∧ RefersTo t n := by
  induction lines with
  | nil => simp [codeReferences]
  | cons l lines ih =>
      obtain ⟨hl, hlines⟩ := List.forall_mem_cons.1 hlines
      by_cases hcode : IsCode l
      · have herases := erases_eraseAttachments l
        rw [List.filterMap_cons_some (ofText?_of_isCode hl hcode herases), codeReferences,
          List.mem_append, ih hlines, mem_references_iff, List.exists_mem_cons_iff]
        refine or_congr_left ⟨fun hn => ⟨hcode, _, herases, hn⟩, ?_⟩
        rintro ⟨-, t, ht, hn⟩
        exact ht.eraseAttachments_eq ▸ hn
      · obtain ⟨m, hm⟩ := not_forall_not.1 hcode
        rw [List.filterMap_cons_some (ofText?_of_isNode hl hm), codeReferences, ih hlines,
          List.exists_mem_cons_iff]
        simp [hcode]

/-- **The nodes are the last definitions.** -/
theorem mem_nodes_iff (node : Node) :
    node ∈ nodes (lines.filterMap Line.ofText?) ↔
      ∃ l, IsDefinition lines node.number l ∧ node.references = references l := by
  induction lines generalizing node with
  | nil => simp [nodes, IsDefinition]
  | cons l lines ih =>
      obtain ⟨hl, hlines⟩ := List.forall_mem_cons.1 hlines
      have hrest := ih hlines
      simp only [isDefinition_cons_iff, or_and_right, exists_or, ← hrest]
      by_cases hcode : IsCode l
      · have herases := erases_eraseAttachments l
        rw [List.filterMap_cons_some (ofText?_of_isCode hl hcode herases), nodes]
        refine (or_iff_left ?_).symm
        rintro ⟨_, ⟨rfl, hnode, -⟩, -⟩
        exact hcode _ hnode
      · obtain ⟨m, hm⟩ := not_forall_not.1 hcode
        have hdefines : (nodes (lines.filterMap Line.ofText?)).any (fun node => node.number == m) =
            true ↔ Defines lines m := by
          simp only [List.any_eq_true, beq_iff_eq, hrest]
          constructor
          · rintro ⟨node, ⟨k, hk, -⟩, rfl⟩
            exact hk.defines
          · intro hdefines
            obtain ⟨k, hk⟩ := exists_isDefinition hdefines
            exact ⟨⟨m, references k⟩, ⟨k, hk, rfl⟩, rfl⟩
        rw [List.filterMap_cons_some (ofText?_of_isNode hl hm), nodes]
        split
        · rename_i hany
          refine (or_iff_left ?_).symm
          rintro ⟨_, ⟨rfl, hnode, hnone⟩, -⟩
          exact hnone (hnode.eq hm ▸ hdefines.1 hany)
        · rename_i hany
          rw [List.mem_cons, or_comm]
          refine or_congr_right ⟨?_, ?_⟩
          · rintro rfl
            exact ⟨l, ⟨rfl, hm, fun h => hany (hdefines.2 h)⟩, rfl⟩
          · rintro ⟨_, ⟨rfl, hnode, -⟩, hreferences⟩
            cases node
            cases hnode.eq hm
            cases hreferences
            rfl

end Lines

/-! ### Live numbers -/

/-- **The live numbers:** the least set that holds every defined number to which code without its
attachments refers, or to which the last definition of a number in the set refers. -/
inductive Live (lines : List (List Char)) : List Char → Prop where
  | code {l t n : List Char} (hl : l ∈ lines) (hcode : IsCode l) (ht : Erases l t)
      (hn : RefersTo t n) (hdefined : Defines lines n) : Live lines n
  | node {m l n : List Char} (hm : Live lines m) (hl : IsDefinition lines m l)
      (hn : RefersTo l n) (hdefined : Defines lines n) : Live lines n

section Live

variable {lines : List (List Char)}

theorem Live.defines {n : List Char} (h : Live lines n) : Defines lines n := by
  cases h with
  | code _ _ _ _ hdefined => exact hdefined
  | node _ _ _ hdefined => exact hdefined

/-- A live number is referred to by code, or by the definition of another live number. -/
theorem Live.exists_reference {n : List Char} (h : Live lines n) :
    (∃ l ∈ lines, IsCode l ∧ ∃ t, Erases l t ∧ RefersTo t n) ∨
      ∃ m l, m ≠ n ∧ Live lines m ∧ IsDefinition lines m l ∧ RefersTo l n := by
  induction h with
  | code hl hcode ht hn _ => exact .inl ⟨_, hl, hcode, _, ht, hn⟩
  | @node m l n hm hl hn _ ih =>
      by_cases heq : m = n
      · exact heq ▸ ih
      · exact .inr ⟨m, l, heq, hm, hl, hn⟩

/-- **Following references finds exactly the live numbers.** -/
theorem not_isDead_iff_live (hlines : ∀ l ∈ lines, ¬ IsDebugLine l) {n : List Char}
    (hn : Defines lines n) : ¬ IsDead (lines.filterMap Line.ofText?) n ↔ Live lines n := by
  have hmem := mem_nodes_iff hlines
  constructor
  · -- Being live, if defined at all, is passed on by references.
    intro hlive
    obtain ⟨l, hl⟩ := exists_isDefinition hn
    have hnode := (hmem ⟨n, references l⟩).2 ⟨l, hl, rfl⟩
    refine not_isDead_induction (P := fun n => Defines lines n → Live lines n) ?_ ?_ hnode hlive hn
    · intro m hm hdefined
      obtain ⟨k, hk, hcode, t, ht, hrefers⟩ := (mem_codeReferences_iff hlines m).1 hm
      exact .code hk hcode ht hrefers hdefined
    · intro node hnode hlive m hm hdefined
      obtain ⟨k, hk, hreferences⟩ := (hmem node).1 hnode
      rw [hreferences, mem_references_iff] at hm
      exact .node (hlive hk.defines) hk hm hdefined
  · intro hlive
    induction hlive with
    | code hl hcode ht hrefers _ =>
        exact not_isDead_of_codeReferences
          ((mem_codeReferences_iff hlines _).2 ⟨_, hl, hcode, _, ht, hrefers⟩)
    | @node m l n hm hl hrefers _ ih =>
        have hnode := (hmem ⟨m, references l⟩).2 ⟨l, hl, rfl⟩
        exact not_isDead_of_references hnode (ih hm.defines) ((mem_references_iff l n).2 hrefers)

end Live

/-! ### What is kept -/

/-- **What is kept of some lines,** given the numbers that are live: code without its attachments,
and the nodes of live numbers, in order. -/
inductive Keeps (live : List Char → Prop) : List (List Char) → List (List Char) → Prop where
  | nil : Keeps live [] []
  | code {l t : List Char} {lines kept : List (List Char)} (hcode : IsCode l) (ht : Erases l t)
      (h : Keeps live lines kept) : Keeps live (l :: lines) (t :: kept)
  | node {n l : List Char} {lines kept : List (List Char)} (hn : IsNode n l) (hlive : live n)
      (h : Keeps live lines kept) : Keeps live (l :: lines) (l :: kept)
  | dropped {n l : List Char} {lines kept : List (List Char)} (hn : IsNode n l) (hdead : ¬ live n)
      (h : Keeps live lines kept) : Keeps live (l :: lines) kept

/-- What is left of a single line. -/
def IsLeftOf (live : List Char → Prop) (l k : List Char) : Prop :=
  (IsCode l ∧ Erases l k) ∨ (k = l ∧ ∃ n, IsNode n l ∧ live n)

/-- What is kept is what is left of one of the lines. -/
theorem Keeps.mem_iff {live : List Char → Prop} {lines kept : List (List Char)}
    (h : Keeps live lines kept) (k : List Char) :
    k ∈ kept ↔ ∃ l ∈ lines, IsLeftOf live l k := by
  induction h with
  | nil => simp
  | @code l t lines kept hcode ht _ ih =>
      rw [List.mem_cons, ih, List.exists_mem_cons_iff]
      refine or_congr_left ⟨?_, ?_⟩
      · rintro rfl
        exact .inl ⟨hcode, ht⟩
      · rintro (⟨-, hk⟩ | ⟨-, n, hn, -⟩)
        · exact hk.eraseAttachments_eq.symm.trans ht.eraseAttachments_eq
        · exact absurd hn (hcode n)
  | @node n l lines kept hn hlive _ ih =>
      rw [List.mem_cons, ih, List.exists_mem_cons_iff]
      refine or_congr_left ⟨fun hk => .inr ⟨hk, n, hn, hlive⟩, ?_⟩
      rintro (⟨hcode, -⟩ | ⟨hk, -⟩)
      · exact absurd hn (hcode n)
      · exact hk
  | @dropped n l lines kept hn hdead _ ih =>
      rw [ih, List.exists_mem_cons_iff, or_iff_right]
      rintro (⟨hcode, -⟩ | ⟨-, m, hm, hlive⟩)
      · exact hcode n hn
      · exact hdead (hm.eq hn ▸ hlive)

/-- Lines of which the dead nodes are taken out are kept as the live numbers say. -/
theorem keeps_filter {live : List Char → Prop} {dead : List Node} {lines : List (List Char)}
    (hlines : ∀ l ∈ lines, ¬ IsDebugLine l)
    (hlive : ∀ n l, l ∈ lines → IsNode n l → (isKept dead (.node n l) = true ↔ live n)) :
    Keeps live lines
      (((lines.filterMap Line.ofText?).filter (isKept dead)).map Line.text) := by
  induction lines with
  | nil => exact .nil
  | cons l lines ih =>
      obtain ⟨hl, hlines⟩ := List.forall_mem_cons.1 hlines
      have hrest := ih hlines fun n k hk => hlive n k (List.mem_cons_of_mem l hk)
      by_cases hcode : IsCode l
      · have herases := erases_eraseAttachments l
        rw [List.filterMap_cons_some (ofText?_of_isCode hl hcode herases)]
        exact .code hcode herases hrest
      · obtain ⟨n, hn⟩ := not_forall_not.1 hcode
        have hkept := hlive n l List.mem_cons_self hn
        rw [List.filterMap_cons_some (ofText?_of_isNode hl hn)]
        by_cases hln : live n
        · rw [List.filter_cons_of_pos (hkept.2 hln)]
          exact .node hn hln hrest
        · rw [List.filter_cons_of_neg (mt hkept.1 hln)]
          exact .dropped hn hln hrest

/-- The lines of a text that are no debug lines. -/
def properLines (s : List Char) : List (List Char) :=
  (Text.displayLines s).filter fun l => ¬ IsDebugLine l

/-- No number is defined by two lines. -/
def DefinesOnce (lines : List (List Char)) : Prop :=
  lines.Pairwise fun l k => ∀ n, IsNode n l → ¬ IsNode n k

theorem definesOnce_iff (lines : List (List Char)) :
    DefinesOnce lines ↔ (lines.filterMap definedNumber?).Nodup := by
  have hdisjoint : ∀ l k : List Char, (∀ n, IsNode n l → ¬ IsNode n k) ↔
      ∀ n, definedNumber? l = some n → ∀ m, definedNumber? k = some m → n ≠ m := by
    intro l k
    simp only [definedNumber?_eq_some_iff]
    exact ⟨fun h n hn m hm hnm => h n hn (hnm ▸ hm), fun h n hn hm => h n hn n hm rfl⟩
  simp only [DefinesOnce, hdisjoint, List.Nodup, List.pairwise_filterMap]

/-- A definition of a number that is defined once is its last one. -/
theorem DefinesOnce.isDefinition {lines : List (List Char)} (h : DefinesOnce lines)
    {n l : List Char} (hl : l ∈ lines) (hn : IsNode n l) : IsDefinition lines n l := by
  obtain ⟨front, back, rfl⟩ := List.append_of_mem hl
  have hback := (List.pairwise_cons.1 (List.pairwise_append.1 h).2.1).1
  exact ⟨hn, front, back, rfl, fun k hk => hback k hk n hn⟩

/-- What is kept of the lines of a text. -/
theorem exists_keeps_strip (s : List Char) :
    ∃ kept, strip s = Text.joinWith ['\n'] kept ++ ['\n'] ∧
      Keeps (Live (properLines s)) (properLines s) kept := by
  have hlines : ∀ l ∈ properLines s, ¬ IsDebugLine l := by
    intro l hl
    simpa using (List.mem_filter.1 hl).2
  have hfilter : (Text.displayLines s).filterMap Line.ofText? =
      (properLines s).filterMap Line.ofText? := by
    rw [properLines, List.filterMap_filter]
    refine List.filterMap_congr fun l _ => ?_
    by_cases hl : IsDebugLine l
    · simp [hl, ofText?_of_isDebugLine]
    · simp [hl]
  refine ⟨_, rfl, ?_⟩
  rw [hfilter]
  refine keeps_filter hlines fun n l hl hn => ?_
  rw [← not_isDead_iff_live hlines ⟨l, hl, hn⟩, isKept_node_iff]

/-- **What is kept of a text.**  Code is kept without its attachments, and nodes are kept if their
numbers are live.  No node is kept to which only itself or nothing refers that is kept.  If no
number is defined twice, the definition of every number that is referred to in what is kept, and is
defined, is kept. -/
theorem strip_keeps_live (s : List Char) :
    ∃ kept, strip s = Text.joinWith ['\n'] kept ++ ['\n'] ∧
      Keeps (Live (properLines s)) (properLines s) kept ∧
      (∀ l ∈ properLines s, ∀ n, IsNode n l → l ∈ kept →
        (∃ k ∈ properLines s, IsCode k ∧ ∃ t ∈ kept, Erases k t ∧ RefersTo t n) ∨
          ∃ k ∈ properLines s, k ∈ kept ∧ ∃ m, m ≠ n ∧ IsNode m k ∧ RefersTo k n) ∧
      (DefinesOnce (properLines s) → ∀ k ∈ kept, ∀ n, RefersTo k n →
        ∀ l ∈ properLines s, IsNode n l → l ∈ kept) := by
  obtain ⟨kept, hstrip, hkeeps⟩ := exists_keeps_strip s
  refine ⟨kept, hstrip, hkeeps, ?_, ?_⟩
  · intro l hl n hn hkept
    have hreference : (∃ k ∈ properLines s, IsCode k ∧ ∃ t, Erases k t ∧ RefersTo t n) ∨
        ∃ m k, m ≠ n ∧ Live (properLines s) m ∧ IsDefinition (properLines s) m k ∧
          RefersTo k n := by
      -- The line may also be left of a line of code, which then refers to the number.
      obtain ⟨k, hk, ⟨hcode, ht⟩ | ⟨rfl, m, hm, hlive⟩⟩ := (hkeeps.mem_iff l).1 hkept
      · exact .inl ⟨k, hk, hcode, l, ht, hn.refersTo⟩
      · exact (hm.eq hn ▸ hlive).exists_reference
    obtain ⟨k, hk, hcode, t, ht, hrefers⟩ | ⟨m, k, hne, hlive, hk, hrefers⟩ := hreference
    · exact .inl ⟨k, hk, hcode, t, (hkeeps.mem_iff t).2 ⟨k, hk, .inl ⟨hcode, ht⟩⟩, ht, hrefers⟩
    · exact .inr ⟨k, hk.mem, (hkeeps.mem_iff k).2 ⟨k, hk.mem, .inr ⟨rfl, m, hk.1, hlive⟩⟩, m, hne,
        hk.1, hrefers⟩
  · intro honce k hk n hrefers l hl hn
    have hlive : Live (properLines s) n := by
      obtain ⟨j, hj, ⟨hcode, ht⟩ | ⟨rfl, m, hm, hlive⟩⟩ := (hkeeps.mem_iff k).1 hk
      · exact .code hj hcode ht hrefers ⟨l, hl, hn⟩
      · exact .node hlive (honce.isDefinition hj hm) hrefers ⟨l, hl, hn⟩
    exact (hkeeps.mem_iff l).2 ⟨l, hl, .inr ⟨rfl, n, hn, hlive⟩⟩

/-- A text with branch weights, of which the nodes form a ring with a tail, beside a ring of debug
metadata. -/
def ringText : List Char :=
  ("br %a, !prof !7, !dbg !1\n!llvm.dbg.cu = !\x7b!0\x7d\n!0 = !\x7b!1, !9\x7d\n" ++
    "!1 = !\x7b!0\x7d\n!7 = !\x7b!8\x7d\n!8 = !\x7b!7, !9\x7d\n!9 = !\x7b\x7d\n").toList

/-- The weights are kept with the ring and its tail; each of them is referred to. -/
theorem strip_keeps_live_ring :
    DefinesOnce (properLines ringText) ∧
      ∃ kept, strip ringText = Text.joinWith ['\n'] kept ++ ['\n'] ∧
        Keeps (Live (properLines ringText)) (properLines ringText) kept ∧
        "br %a, !prof !7".toList ∈ kept ∧ "!7 = !\x7b!8\x7d".toList ∈ kept ∧
        "!8 = !\x7b!7, !9\x7d".toList ∈ kept ∧ "!9 = !\x7b\x7d".toList ∈ kept ∧
        ((∃ k ∈ properLines ringText, IsCode k ∧ ∃ t ∈ kept, Erases k t ∧ RefersTo t ['9']) ∨
          ∃ k ∈ properLines ringText, k ∈ kept ∧ ∃ m, m ≠ ['9'] ∧ IsNode m k ∧
            RefersTo k ['9']) := by
  have hlines : properLines ringText =
      ["br %a, !prof !7, !dbg !1".toList, "!0 = !\x7b!1, !9\x7d".toList, "!1 = !\x7b!0\x7d".toList,
        "!7 = !\x7b!8\x7d".toList, "!8 = !\x7b!7, !9\x7d".toList, "!9 = !\x7b\x7d".toList] := by
    decide +kernel
  have honce : DefinesOnce (properLines ringText) := by
    rw [hlines, definesOnce_iff]
    decide +kernel
  obtain ⟨kept, hstrip, hkeeps, hreferred, hdefined⟩ := strip_keeps_live ringText
  have hbranch : "br %a, !prof !7".toList ∈ kept := by
    refine (hkeeps.mem_iff _).2 ⟨"br %a, !prof !7, !dbg !1".toList, by simp [hlines], .inl ⟨?_, ?_⟩⟩
    · decide +kernel
    · exact (eraseAttachments_eq_iff _ _).1 (by decide +kernel)
  have hseven := hdefined honce _ hbranch ['7'] (by decide +kernel)
    "!7 = !\x7b!8\x7d".toList (by simp [hlines]) (by decide +kernel)
  have height := hdefined honce _ hseven ['8'] (by decide +kernel)
    "!8 = !\x7b!7, !9\x7d".toList (by simp [hlines]) (by decide +kernel)
  have hnine := hdefined honce _ height ['9'] (by decide +kernel)
    "!9 = !\x7b\x7d".toList (by simp [hlines]) (by decide +kernel)
  exact ⟨honce, kept, hstrip, hkeeps, hbranch, hseven, height, hnine,
    hreferred _ (by simp [hlines]) ['9'] (by decide +kernel) hnine⟩

end JitExplorer.Metadata
