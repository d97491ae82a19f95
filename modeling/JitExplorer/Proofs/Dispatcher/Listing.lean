/-
**The typed listing with and without debug information.**

The typed listing of an overload consists of its signature and of the lines of its blocks, in the
strictly increasing order of their labels.  Which lines these are does not depend on the debug
information that is asked for: an instruction is shown with the type of the variable that it
assigns, if both are known, and with debug information the line of an instruction of known place is
followed by a comment with its source line.  That comment is the whole difference.

Main definitions:

* `Dispatcher.ListedLine` — a line of a listing, and the source line that its comment tells;
* `Dispatcher.ListsInstruction`, `Dispatcher.ListsBlocks` — the lines of an instruction and of
  blocks;
* `Dispatcher.AreListings` — the listing of some blocks without and with comments;
* `Dispatcher.Compiler.HasBlocks` — where the blocks of a listing come from.

Main results:

* `Dispatcher.pairwise_sortedBlocks` — blocks with labels of their own are brought into the strictly
  increasing order of their labels;
* `Dispatcher.exists_listedLines` — with and without debug information, the lines of blocks are the
  same listed lines;
* `Dispatcher.ListsBlocks.length_eq` — the number of lines of blocks;
* `Dispatcher.areListings_typedText` — the two listings of some blocks;
* `Dispatcher.Compiler.typed_differs_in_comments` — **debug information adds comments only.**
-/

import JitExplorer.Dispatcher.Compiler
import Mathlib.Data.List.Forall2

set_option autoImplicit false

namespace JitExplorer.Dispatcher

/-! ### Listed lines -/

/-- A line of a listing without debug information, and the source line that its comment tells if
there is one. -/
structure ListedLine where
  text : String
  source : Option Int := none

/-- The line with its comment. -/
def ListedLine.commented (line : ListedLine) : String :=
  match line.source with
  | some source => line.text ++ ("  # line " ++ Text.intText source)
  | none => line.text

/-- **The line of an instruction:** its text, and the type of the variable that it assigns exactly
if it does and the type is known; the comment tells its source line exactly if that is known. -/
inductive ListsInstruction (types : List (String × String)) (instruction : Instruction) :
    ListedLine → Prop where
  | typed {target type : String} (htarget : instruction.target = some target)
      (htype : types.lookup target = some type) :
      ListsInstruction types instruction
        ⟨"    " ++ instruction.text ++ (" :: " ++ type), instruction.line⟩
  | untyped (h : ∀ target ∈ instruction.target, types.lookup target = none) :
      ListsInstruction types instruction ⟨"    " ++ instruction.text, instruction.line⟩

/-- **The lines of blocks:** for each block its label, and a line for each of its instructions. -/
inductive ListsBlocks (types : List (String × String)) : Blocks → List ListedLine → Prop where
  | nil : ListsBlocks types [] []
  | cons {name : Int} {body : List Instruction} {blocks : Blocks} {lines rest : List ListedLine}
      (hbody : List.Forall₂ (ListsInstruction types) body lines)
      (hblocks : ListsBlocks types blocks rest) :
      ListsBlocks types ((name, body) :: blocks)
        (⟨"label " ++ Text.intText name ++ ":", none⟩ :: (lines ++ rest))

section Listing

variable (types : List (String × String))

/-- With and without debug information, the line of an instruction is the same listed line. -/
theorem exists_listsInstruction (instruction : Instruction) :
    ∃ line, ListsInstruction types instruction line ∧
      instructionLine types false instruction = line.text ∧
      instructionLine types true instruction = line.commented := by
  have hline : ∀ text : String,
      text ++ lineSuffix true instruction = (ListedLine.mk text instruction.line).commented ∧
        text ++ lineSuffix false instruction = text := by
    intro text
    unfold lineSuffix ListedLine.commented
    cases instruction.line with
    | none => exact ⟨String.append_empty, String.append_empty⟩
    | some source => exact ⟨rfl, String.append_empty⟩
  simp only [instructionLine, hline]
  unfold typeSuffix
  cases htype : instruction.target.bind fun target => types.lookup target with
  | some type =>
      obtain ⟨target, htarget, hlookup⟩ := Option.bind_eq_some_iff.1 htype
      exact ⟨_, .typed htarget hlookup, rfl, rfl⟩
  | none =>
      refine ⟨_, .untyped (Option.bind_eq_none_iff.1 htype), ?_, ?_⟩
      · exact String.append_empty
      · exact congrArg (fun text => (ListedLine.mk text _).commented) String.append_empty

/-- With and without debug information, the lines of instructions are the same listed lines. -/
theorem exists_listsInstructions (body : List Instruction) :
    ∃ lines, List.Forall₂ (ListsInstruction types) body lines ∧
      body.map (instructionLine types false) = lines.map ListedLine.text ∧
      body.map (instructionLine types true) = lines.map ListedLine.commented := by
  induction body with
  | nil => exact ⟨[], .nil, rfl, rfl⟩
  | cons instruction body ih =>
      obtain ⟨lines, hlines, hplain, hcommented⟩ := ih
      obtain ⟨line, hline, hlinePlain, hlineCommented⟩ := exists_listsInstruction types instruction
      refine ⟨line :: lines, .cons hline hlines, ?_, ?_⟩
      · rw [List.map_cons, List.map_cons, hlinePlain, hplain]
      · rw [List.map_cons, List.map_cons, hlineCommented, hcommented]

/-- **With and without debug information, the lines of blocks are the same listed lines.** -/
theorem exists_listedLines (blocks : Blocks) :
    ∃ lines, ListsBlocks types blocks lines ∧
      blocks.flatMap (blockLines types false) = lines.map ListedLine.text ∧
      blocks.flatMap (blockLines types true) = lines.map ListedLine.commented := by
  induction blocks with
  | nil => exact ⟨[], .nil, rfl, rfl⟩
  | cons block blocks ih =>
      obtain ⟨name, body⟩ := block
      obtain ⟨rest, hrest, hplain, hcommented⟩ := ih
      obtain ⟨lines, hlines, hlinesPlain, hlinesCommented⟩ := exists_listsInstructions types body
      refine ⟨_, .cons hlines hrest, ?_, ?_⟩
      · simp [blockLines, labelLine, hlinesPlain, hplain]
      · simp [blockLines, labelLine, hlinesCommented, hcommented, ListedLine.commented]

end Listing

/-! ### The order of the blocks -/

/-- **Blocks with labels of their own are brought into the strictly increasing order of their
labels.** -/
theorem pairwise_sortedBlocks {blocks : Blocks} (h : (blocks.map Prod.fst).Nodup) :
    ((sortedBlocks blocks).map Prod.fst).Pairwise (· < ·) := by
  have hle : ((sortedBlocks blocks).map Prod.fst).Pairwise (· ≤ ·) := by
    have hsorted : (sortedBlocks blocks).Pairwise fun a b => decide (a.1 ≤ b.1) = true :=
      List.pairwise_mergeSort
        (fun a b c hab hbc => by simp only [decide_eq_true_eq] at *; omega)
        (fun a b => by simp only [Bool.or_eq_true, decide_eq_true_eq]; omega) blocks
    exact List.pairwise_map.2 (hsorted.imp fun hab => of_decide_eq_true hab)
  have hnodup : ((sortedBlocks blocks).map Prod.fst).Nodup :=
    ((sortedBlocks_perm blocks).map Prod.fst).nodup_iff.2 h
  exact hle.imp₂ (fun _ _ hab hne => Int.lt_iff_le_and_ne.2 ⟨hab, hne⟩) hnodup

/-! ### The number of lines -/

/-- A text holds no newline. -/
def IsOneLine (text : String) : Prop :=
  '\n' ∉ text.toList

instance (text : String) : Decidable (IsOneLine text) :=
  inferInstanceAs (Decidable ('\n' ∉ text.toList))

/-- An instruction and the type that it is shown with hold no newline. -/
structure IsShownInOneLine (types : List (String × String)) (instruction : Instruction) : Prop where
  text : IsOneLine instruction.text
  type : ∀ target ∈ instruction.target, ∀ type ∈ types.lookup target, IsOneLine type

theorem IsOneLine.append {text more : String} (h : IsOneLine text) (hmore : IsOneLine more) :
    IsOneLine (text ++ more) := by
  rw [IsOneLine, String.toList_append, List.mem_append, not_or]
  exact ⟨h, hmore⟩

theorem isOneLine_intText (n : Int) : IsOneLine (Text.intText n) := by
  rw [IsOneLine, Text.intText, String.toList_ofList]
  exact Text.notMem_intDigits (by decide) (by decide) n

theorem IsOneLine.commented {line : ListedLine} (h : IsOneLine line.text) :
    IsOneLine line.commented := by
  rw [ListedLine.commented]
  cases line.source with
  | none => exact h
  | some source =>
      have hmark : IsOneLine "  # line " := by decide +kernel
      exact h.append (hmark.append (isOneLine_intText source))

section Counting

variable {types : List (String × String)} {blocks : Blocks} {lines : List ListedLine}

theorem ListsInstruction.isOneLine {instruction : Instruction} {line : ListedLine}
    (h : ListsInstruction types instruction line)
    (hparts : IsShownInOneLine types instruction) : IsOneLine line.text := by
  have hindent : IsOneLine "    " := by decide +kernel
  cases h with
  | @typed target type htarget htype =>
      have hmark : IsOneLine " :: " := by decide +kernel
      have htypeLine := hparts.type target htarget type htype
      exact (hindent.append hparts.text).append (hmark.append htypeLine)
  | untyped => exact hindent.append hparts.text

theorem isOneLine_of_listsInstructions {body : List Instruction}
    (h : List.Forall₂ (ListsInstruction types) body lines)
    (hparts : ∀ instruction ∈ body, IsShownInOneLine types instruction) :
    ∀ line ∈ lines, IsOneLine line.text := by
  induction h with
  | nil => exact fun line hline => nomatch hline
  | cons hlists _ ih =>
      obtain ⟨hfirst, hothers⟩ := List.forall_mem_cons.1 hparts
      exact List.forall_mem_cons.2 ⟨hlists.isOneLine hfirst, ih hothers⟩

theorem ListsBlocks.isOneLine (h : ListsBlocks types blocks lines)
    (hparts : ∀ block ∈ blocks, ∀ instruction ∈ block.2, IsShownInOneLine types instruction) :
    ∀ line ∈ lines, IsOneLine line.text := by
  induction h with
  | nil => exact fun line hline => nomatch hline
  | @cons name body blocks bodyLines rest hbody _ ih =>
      obtain ⟨hfirst, hothers⟩ := List.forall_mem_cons.1 hparts
      have hlabel : IsOneLine ("label " ++ Text.intText name ++ ":") :=
        (IsOneLine.append (by decide +kernel) (isOneLine_intText name)).append (by decide +kernel)
      have hbodyLines := isOneLine_of_listsInstructions hbody hfirst
      exact List.forall_mem_cons.2 ⟨hlabel, List.forall_mem_append.2 ⟨hbodyLines, ih hothers⟩⟩

/-- **The number of lines of blocks:** one for each block, and one for each instruction. -/
theorem ListsBlocks.length_eq (h : ListsBlocks types blocks lines) :
    lines.length = blocks.length + (blocks.flatMap Prod.snd).length := by
  induction h with
  | nil => rfl
  | cons hbody _ ih =>
      have hlength := hbody.length_eq
      simp only [List.length_cons, List.length_append, List.flatMap_cons]
      omega

/-- Lines that are written out are counted. -/
theorem lineCount_writeLines {texts : List String} (hne : texts ≠ [])
    (h : ∀ text ∈ texts, IsOneLine text) :
    (StageOutput.ofText (Text.writeLines texts)).lineCount = texts.length := by
  have hlines : ∀ l ∈ texts.map String.toList, '\n' ∉ l := List.forall_mem_map.2 h
  have hends := Text.getLast?_unpieces (mt List.map_eq_nil_iff.1 hne : texts.map String.toList ≠ [])
  rw [StageOutput.ofText_lineCount, Text.toList_writeLines, endWithNewline, if_pos hends,
    Text.count_newline_unpieces _ hlines, List.length_map]

end Counting

/-! ### Listings with and without comments -/

/-- **Two texts are the listing of some blocks without and with comments.**  They consist of the
same lines: the heading, and the lines of the blocks in the strictly increasing order of the labels;
and there is one for the heading, for each block and for each instruction, unless a part holds a
newline. -/
structure AreListings (heading : String) (types : List (String × String)) (blocks : Blocks)
    (plain commented : String) : Prop where
  exists_lines : ∃ (ordered : Blocks) (lines : List ListedLine),
    ordered.Perm blocks ∧ (ordered.map Prod.fst).Pairwise (· < ·) ∧
      ListsBlocks types ordered lines ∧
      plain = Text.writeLines (heading :: lines.map ListedLine.text) ∧
      commented = Text.writeLines (heading :: lines.map ListedLine.commented)
  lineCount : IsOneLine heading →
    (∀ block ∈ blocks, ∀ instruction ∈ block.2, IsShownInOneLine types instruction) →
      ∀ text ∈ [plain, commented], (StageOutput.ofText text).lineCount =
        1 + blocks.length + (blocks.flatMap Prod.snd).length

theorem areListings_typedText (heading : String) (types : List (String × String))
    {blocks : Blocks} (hlabels : (blocks.map Prod.fst).Nodup) :
    AreListings heading types blocks (typedText heading types blocks false)
      (typedText heading types blocks true) := by
  have hperm := sortedBlocks_perm blocks
  obtain ⟨lines, hlines, hplain, hcommented⟩ := exists_listedLines types (sortedBlocks blocks)
  simp only [typedText, typedLines, hplain, hcommented]
  refine ⟨⟨_, lines, hperm, pairwise_sortedBlocks hlabels, hlines, rfl, rfl⟩, ?_⟩
  intro hheading hparts
  have htexts := hlines.isOneLine fun block hblock => hparts block (hperm.subset hblock)
  have hlength : lines.length = blocks.length + (blocks.flatMap Prod.snd).length := by
    rw [hlines.length_eq, hperm.length_eq, (hperm.flatMap_right _).length_eq]
  have hcount : ∀ shown : ListedLine → String, (∀ line ∈ lines, IsOneLine (shown line)) →
      (StageOutput.ofText (Text.writeLines (heading :: lines.map shown))).lineCount =
        1 + blocks.length + (blocks.flatMap Prod.snd).length := by
    intro shown hshown
    rw [lineCount_writeLines (List.cons_ne_nil _ _)
      (List.forall_mem_cons.2 ⟨hheading, List.forall_mem_map.2 hshown⟩), List.length_cons,
      List.length_map, hlength]
    omega
  refine List.forall_mem_cons.2 ⟨hcount _ htexts, List.forall_mem_singleton.2 (hcount _ ?_)⟩
  exact fun line hline => (htexts line hline).commented

/-! ### The stage -/

namespace Compiler

variable {compiler : Compiler} {s : Specialization} {result : CompileResult} {typing : Typing}
  {options : StageOptions} {blocks : Blocks}

/-- **Where the blocks of a listing come from.** -/
inductive HasBlocks (compiler : Compiler) (s : Specialization) (typing : Typing) :
    Bool → Blocks → Prop where
  /-- With optimization they are the typing's own ones, if there are any. -/
  | annotated {blocks : Blocks} (hne : blocks ≠ []) (h : typing.blocks = some blocks) :
      HasBlocks compiler s typing true blocks
  /-- Otherwise they are those of the form that the typing was made from. -/
  | lowered {blocks : Blocks} (hnone : ∀ own ∈ typing.blocks, own = [])
      (h : typing.lowered = some blocks) : HasBlocks compiler s typing true blocks
  /-- Without optimization they come from the front end. -/
  | fresh {dispatcher : Dispatcher} {frontend : Frontend}
      (hdispatcher : compiler.handle? s = some dispatcher)
      (h : dispatcher.frontend = .ok frontend) :
      HasBlocks compiler s typing false frontend.blocks

theorem HasBlocks.result_typedBlocks
    (h : HasBlocks compiler s typing options.optimize blocks) :
    (typedBlocks s typing options compiler).result = .ok blocks := by
  rw [typedBlocks]
  generalize options.optimize = optimize at h
  cases h with
  | annotated hne h =>
      obtain ⟨block, rest, rfl⟩ := List.exists_cons_of_ne_nil hne
      simp [Answer.of, shownBlocks, h]
  | lowered hnone h =>
      cases hown : typing.blocks with
      | none => simp [Answer.of, shownBlocks, hown, h]
      | some own =>
          have hempty := hnone own hown
          subst hempty
          simp [Answer.of, shownBlocks, hown, h]
  | fresh hdispatcher h => simp [runFrontend, hdispatcher, h, Answer.of, Answer.map, Except.map]

/-- The typed stage of an overload with a typing writes the listing of its blocks. -/
theorem emit_typed (options : StageOptions)
    (hresult : compiler.overload? s.object = some (.result result))
    (htyping : result.typing = some typing)
    (hblocks : HasBlocks compiler s typing options.optimize blocks) :
    emit .typed s options compiler =
      { state := (typedBlocks s typing options compiler).state
        log := (typedBlocks s typing options compiler).log
        written := [typedText (s.callable.name ++ result.signature) typing.types blocks
          (withDebugInfo options)]
        result := .ok () } := by
  have htypingOf : compiler.typingOf s .typed = .ok (result, typing) := by
    simp [typingOf, resultOf, hresult, htyping]
  simp only [emit, stageText, typed, htypingOf, Answer.map, Answer.emission,
    hblocks.result_typedBlocks, Except.map]

/-- **Debug information adds comments only.**  For an overload with a typing and blocks with labels
of their own, the typed stage succeeds without debug information and with any, does the same to the
compiler, and writes the listing of the blocks without and with comments. -/
theorem typed_differs_in_comments
    (hresult : compiler.overload? s.object = some (.result result))
    (htyping : result.typing = some typing)
    (hblocks : HasBlocks compiler s typing options.optimize blocks)
    (hlabels : (blocks.map Prod.fst).Nodup) (hdebug : options.debugInfo ≠ .none) :
    ∃ (plain commented : String) (state : Compiler) (log : List Log.Entry),
      emit .typed s { options with debugInfo := .none } compiler =
          { state, log, written := [plain], result := .ok () } ∧
        emit .typed s options compiler =
          { state, log, written := [commented], result := .ok () } ∧
        AreListings (s.callable.name ++ result.signature) typing.types blocks plain commented := by
  have hwanted : withDebugInfo options = true := by simpa [withDebugInfo] using hdebug
  refine ⟨_, _, (typedBlocks s typing options compiler).state,
    (typedBlocks s typing options compiler).log, ?_, ?_, areListings_typedText _ _ hlabels⟩
  · exact emit_typed { options with debugInfo := .none } hresult htyping hblocks
  · rw [emit_typed options hresult htyping hblocks, hwanted]

/-- Two blocks that are kept in the order in which they were reached, with an assignment of known
type and place, one of unknown type, and an instruction that assigns nothing. -/
def reachedBlocks : Blocks :=
  [(8, [⟨"return x", none, some 5⟩]),
    (0, [⟨"x = arg(0)", some "x", some 4⟩, ⟨"y = global(g)", some "y", none⟩])]

/-- An overload with these blocks. -/
def reachedOverload : CompileResult where
  argTypes := ["int32"]
  returnType := "int32"
  typing := some { types := [("x", "int32")], blocks := some reachedBlocks }
  library := ⟨.ok "", .ok "", .ok ""⟩
  typesText := .ok ""
  debugLibrary _ := .ok ⟨.ok "", .ok "", .ok ""⟩

/-- A dispatcher with this overload. -/
def reached : Compiler where
  world := { bindings := [("f", .callable {
    name := "f"
    listing := .available ["def f(x):\n"] 4
    overloads := .mapping [some (.result reachedOverload)] })] }

/-- The specialization that this overload is. -/
def reachedSpecialization : Specialization :=
  ⟨⟨"f", [0]⟩, ["int32"], ⟨⟨"f", [0]⟩, 4, [0, 0]⟩, [0, 0, 0]⟩

/-- Blocks that are kept in another order are listed in the order of their labels. -/
theorem typed_differs_in_comments_reached :
    reached.overload? reachedSpecialization.object = some (.result reachedOverload) ∧
      HasBlocks reached reachedSpecialization
        { types := [("x", "int32")], blocks := some reachedBlocks } true reachedBlocks ∧
      (reachedBlocks.map Prod.fst).Nodup ∧
      ∃ (plain commented : String) (state : Compiler) (log : List Log.Entry),
        emit .typed reachedSpecialization { debugInfo := .none } reached =
            { state, log, written := [plain], result := .ok () } ∧
          emit .typed reachedSpecialization { debugInfo := .source } reached =
            { state, log, written := [commented], result := .ok () } ∧
          AreListings "f(int32,) -> int32" [("x", "int32")] reachedBlocks plain commented := by
  have hoverload : reached.overload? reachedSpecialization.object =
      some (.result reachedOverload) := rfl
  have hblocks : HasBlocks reached reachedSpecialization
      { types := [("x", "int32")], blocks := some reachedBlocks } true reachedBlocks :=
    .annotated (List.cons_ne_nil _ _) rfl
  have hlabels : (reachedBlocks.map Prod.fst).Nodup := by decide
  have hlistings := @typed_differs_in_comments reached reachedSpecialization reachedOverload _
    { debugInfo := .source } _ hoverload rfl hblocks hlabels (by decide)
  exact ⟨hoverload, hblocks, hlabels, hlistings⟩

end Compiler

end JitExplorer.Dispatcher
