/-
**The server without an interpreter.**

When the interpreter goes away, nothing is kept for any document any more, and the diagnostics of
the open ones are withdrawn.  Later events keep it so until an interpreter is named again: a
document that changes is skipped.  But a run that was started with the old interpreter goes on, and
what it ends with is kept and shown, unless the document is run again at once and so skipped.

Main definitions:

* `Session.View.IsEmpty` — no blocks and no diagnostics are kept for a document;
* `Session.LeavesNothing` — a result that leaves no blocks and no diagnostics behind;
* `Session.Move.EndsQuietly` — a step in which no run leaves anything behind.

Main results:

* `Session.History.isEmpty_move_iff` — **one step keeps the server empty exactly if it ends
  quietly;**
* `Session.hints_of_isEmpty` — nothing is hinted where nothing is kept;
* `Session.History.empty_until_run_ends` — **how long the server stays empty.**
-/

import JitExplorer.Proofs.Session.View
import JitExplorer.Session.DecodingEditor
import Mathlib.Data.List.Induction

set_option autoImplicit false

namespace JitExplorer.Session

/-! ### Empty views -/

/-- No blocks and no diagnostics are kept for a document. -/
structure View.IsEmpty (v : View) : Prop where
  blocks : v.blocks.getD [] = []
  diagnostics : v.diagnostics.getD [] = []

theorem View.isEmpty_skipped : View.skipped.IsEmpty := ⟨rfl, rfl⟩

theorem View.isEmpty_none (shown : Option (List Diagnostic)) : IsEmpty ⟨none, none, shown⟩ :=
  ⟨rfl, rfl⟩

/-- A result that leaves no blocks and no diagnostics behind: it has none, or it is a failure that
nothing may handle. -/
def LeavesNothing (result : Except Invocation.Fault (List Block)) : Prop :=
  IsOrdinaryResult result → resultBlocks result = [] ∧ resultDiagnostics result = []

/-- Nothing is hinted for a document for which nothing is kept. -/
theorem hints_of_isEmpty [Editor] {uri : String} {s : Session} (hempty : (s.view uri).IsEmpty)
    (hpath : HasPath uri) (reading : Except Failure String) (first last : Int) :
    hints reading uri first last s = (.ok [], s) := by
  obtain ⟨document?, hfound⟩ := exists_findDocument_ok hpath s
  obtain ⟨path, hpath⟩ := hpath
  have hblocks : (s.blocks.get? uri).getD [] = [] := hempty.blocks
  rw [hints, Act.bind_apply, Act.bind_ok _ hfound, hpath]
  simp only [Act.ofExcept_ok_bind_apply, Act.look_bind_apply, id_eq]
  rcases hkept : s.blocks.get? uri with _ | _ | ⟨block, blocks⟩
  · rfl
  · rfl
  · simp [hkept] at hblocks

/-- **What the end of a run leaves behind without an interpreter:** nothing, exactly if the result
leaves nothing or the document is run again. -/
theorem isEmpty_conclude_iff {uri : String} {s : Session} (hoff : s.hasInterpreter = false)
    (hempty : (s.view uri).IsEmpty) (refusal : Option Failure)
    (result : Except Invocation.Fault (List Block)) :
    ((conclude uri refusal result s).2.view uri).IsEmpty ↔
      LeavesNothing result ∨ RunsAgain uri s := by
  by_cases hagain : RunsAgain uri s
  · rw [view_conclude_skipped hagain hoff]
    exact iff_of_true View.isEmpty_skipped (.inr hagain)
  · rw [view_conclude fun _ => hagain]
    by_cases hordinary : IsOrdinaryResult result
    · obtain ⟨shown, hsettle, -⟩ := view_settle_self uri refusal hordinary s
      rw [hsettle]
      constructor
      · exact fun h => .inl fun _ => ⟨h.blocks, h.diagnostics⟩
      · intro h
        obtain ⟨hblocks, hdiagnostics⟩ := h.resolve_right hagain hordinary
        exact ⟨hblocks, hdiagnostics⟩
    · rw [settle_of_not_isOrdinary uri refusal hordinary]
      exact iff_of_true hempty (.inl fun h => absurd h hordinary)

/-- What is shown for a document when its run ends without an interpreter and leaves nothing. -/
theorem shown?_conclude {uri : String} {s : Session} (hoff : s.hasInterpreter = false)
    (refusal : Option Failure) {result : Except Invocation.Fault (List Block)}
    (hquiet : LeavesNothing result ∨ RunsAgain uri s) :
    (conclude uri refusal result s).2.shown? uri = some [] ∨
      (conclude uri refusal result s).2.shown? uri = s.shown? uri := by
  change ((conclude uri refusal result s).2.view uri).shown = some [] ∨
    ((conclude uri refusal result s).2.view uri).shown = s.shown? uri
  by_cases hagain : RunsAgain uri s
  · rw [view_conclude_skipped hagain hoff]
    exact .inl rfl
  · rw [view_conclude fun _ => hagain]
    by_cases hordinary : IsOrdinaryResult result
    · obtain ⟨shown, hsettle, hshown⟩ := view_settle_self uri refusal hordinary s
      obtain ⟨-, hdiagnostics⟩ := hquiet.resolve_right hagain hordinary
      rw [hsettle]
      rcases hshown with rfl | ⟨rfl, -⟩
      · exact .inl (congrArg some hdiagnostics)
      · exact .inr rfl
    · rw [settle_of_not_isOrdinary uri refusal hordinary]
      exact .inr rfl

/-! ### One step -/

/-- An interpreter is named. -/
def Event.SetsInterpreter : Event → Prop
  | .named _ interpreter => interpreter.isOn = true
  | _ => False

/-- An interpreter is named in a step. -/
def Move.SetsInterpreter : Move → Prop
  | .event e => e.SetsInterpreter
  | _ => False

/-- No run that ends in a step leaves anything behind: its result does not, or its document is run
again. -/
def Move.EndsQuietly (h : History) : Move → Prop
  | .finish place _ result =>
      ∀ task, h.going[place]? = some task → LeavesNothing result ∨ RunsAgain task.uri h.session
  | _ => True

namespace History

section Empty

variable [Editor] {h : History} {m : Move}

/-- Without an interpreter there is none after a step, unless one is named. -/
theorem hasInterpreter_move (hoff : h.session.hasInterpreter = false)
    (hsets : ¬ m.SetsInterpreter) : (h.move m).session.hasInterpreter = false := by
  cases m with
  | event event =>
      have hinterpreter := event.act_interpreter h.session
      refine (congrArg Datum.isOn hinterpreter).trans ?_
      cases event with
      | named refusal interpreter => exact Bool.not_eq_true _ ▸ hsets
      | _ => exact hoff
  | start =>
      rcases h.move_start_cases with hstart | ⟨task, queue, -, hstart⟩
      · rwa [hstart]
      · rw [hstart]
        exact hoff
  | finish place refusal result =>
      simp only [History.move]
      split
      · exact hoff
      · rename_i task _
        exact (congrArg Datum.isOn (conclude_interpreter task.uri refusal result _)).trans hoff

/-- **One step keeps the server empty exactly if it ends quietly.** -/
theorem isEmpty_move_iff (hoff : h.session.hasInterpreter = false)
    (hempty : ∀ uri, (h.session.view uri).IsEmpty) :
    (∀ uri, ((h.move m).session.view uri).IsEmpty) ↔ m.EndsQuietly h := by
  cases m with
  | event event =>
      refine iff_of_true (fun uri => ?_) trivial
      have hredraws := event.redraws uri h.session
      change ((event.act h.session).2.view uri).IsEmpty
      generalize (event.act h.session).2.view uri = after at hredraws
      cases hredraws with
      | kept => exact hempty uri
      | skipped => exact View.isEmpty_skipped
      | cleared => exact View.isEmpty_none _
      | wiped => exact View.isEmpty_none _
  | start =>
      refine iff_of_true (fun uri => ?_) trivial
      rcases h.move_start_cases with hstart | ⟨task, queue, -, hstart⟩
      · rw [hstart]
        exact hempty uri
      · rw [hstart]
        exact hempty uri
  | finish place refusal result =>
      cases hplace : h.going[place]? with
      | none => simpa [History.move, Move.EndsQuietly, hplace] using hempty
      | some task =>
          simp only [History.move, Move.EndsQuietly, hplace, Option.some.injEq, forall_eq']
          have hself := isEmpty_conclude_iff hoff (hempty task.uri) refusal result
          refine ⟨fun hall => hself.1 (hall task.uri), fun hquiet uri => ?_⟩
          by_cases heq : task.uri = uri
          · subst heq
            exact hself.2 hquiet
          · rw [view_conclude_of_ne heq]
            exact hempty uri

/-- What is shown for a document after a step that ends quietly was shown before, or is empty. -/
theorem shown?_move (hoff : h.session.hasInterpreter = false) (hquiet : m.EndsQuietly h)
    (uri : String) :
    (h.move m).session.shown? uri = some [] ∨
      (h.move m).session.shown? uri = h.session.shown? uri := by
  cases m with
  | event event =>
      have hredraws := event.redraws uri h.session
      change ((event.act h.session).2.view uri).shown = some [] ∨
        ((event.act h.session).2.view uri).shown = h.session.shown? uri
      generalize (event.act h.session).2.view uri = after at hredraws
      cases hredraws with
      | kept => exact .inr rfl
      | skipped => exact .inl rfl
      | cleared => exact .inl rfl
      | wiped =>
          by_cases hnone : h.session.document? uri = none
          · exact .inr (if_pos hnone)
          · exact .inl (if_neg hnone)
  | start =>
      rcases h.move_start_cases with hstart | ⟨task, queue, -, hstart⟩
      · exact .inr (by rw [hstart])
      · rw [hstart]
        exact .inr rfl
  | finish place refusal result =>
      cases hplace : h.going[place]? with
      | none => exact .inr (by simp only [History.move, hplace])
      | some task =>
          simp only [History.move, hplace]
          by_cases heq : task.uri = uri
          · subst heq
            exact shown?_conclude hoff refusal (hquiet task hplace)
          · exact .inr (congrArg View.shown (view_conclude_of_ne heq refusal result h.session))

/-! ### Several steps -/

variable {moves : List Move}

theorem hasInterpreter_run (hoff : h.session.hasInterpreter = false)
    (hsets : ∀ m ∈ moves, ¬ m.SetsInterpreter) :
    (h.run moves).session.hasInterpreter = false := by
  induction moves generalizing h with
  | nil => exact hoff
  | cons m moves ih =>
      obtain ⟨hm, hmoves⟩ := List.forall_mem_cons.1 hsets
      exact ih (hasInterpreter_move hoff hm) hmoves

/-- Without an interpreter, the server that is empty stays so exactly if all steps end quietly. -/
theorem isEmpty_run_iff (hoff : h.session.hasInterpreter = false)
    (hempty : ∀ uri, (h.session.view uri).IsEmpty)
    (hsets : ∀ m ∈ moves, ¬ m.SetsInterpreter) :
    (∀ front, front <+: moves → ∀ uri, ((h.run front).session.view uri).IsEmpty) ↔
      ∀ front m, front ++ [m] <+: moves → m.EndsQuietly (h.run front) := by
  have hoffs : ∀ front, front <+: moves → (h.run front).session.hasInterpreter = false :=
    fun front hfront => hasInterpreter_run hoff fun m hm => hsets m (hfront.subset hm)
  constructor
  · intro hall front m hmore
    have hfront : front <+: moves := (List.prefix_append front [m]).trans hmore
    refine (isEmpty_move_iff (hoffs front hfront) (hall front hfront)).1 ?_
    rw [← run_concat]
    exact hall _ hmore
  · -- The last of the first steps is the one that must end quietly.
    intro hquiet front
    induction front using List.reverseRecOn with
    | nil => exact fun _ => hempty
    | append_singleton front m ih =>
        intro hmore
        have hfront : front <+: moves := (List.prefix_append front [m]).trans hmore
        rw [run_concat]
        exact (isEmpty_move_iff (hoffs front hfront) (ih hfront)).2 (hquiet front m hmore)

/-- What is shown for a document after several steps that end quietly was shown before, or is
empty. -/
theorem shown?_run (hoff : h.session.hasInterpreter = false)
    (hsets : ∀ m ∈ moves, ¬ m.SetsInterpreter)
    (hquiet : ∀ front m, front ++ [m] <+: moves → m.EndsQuietly (h.run front)) (uri : String) :
    (h.run moves).session.shown? uri = some [] ∨
      (h.run moves).session.shown? uri = h.session.shown? uri := by
  induction moves using List.reverseRecOn with
  | nil => exact .inr rfl
  | append_singleton front m ih =>
      have hfronts : ∀ m ∈ front, ¬ m.SetsInterpreter :=
        fun m hm => hsets m (List.mem_append_left _ hm)
      rw [run_concat]
      rcases shown?_move (hasInterpreter_run hoff hfronts) (hquiet front m List.prefix_rfl) uri with
        hempty | hsame
      · exact .inl hempty
      · rw [hsame]
        exact ih hfronts fun front' m' hmore =>
          hquiet front' m' (hmore.trans (List.prefix_append front [m]))

/-! ### How long the server stays empty -/

/-- **How long the server stays empty.**  In any history in which the interpreter goes away, and
until one is named again, nothing is kept for any document at any step exactly if every run that
ends leaves nothing behind or belongs to a document that is run again.  Where nothing is kept,
nothing is hinted.  And if every run ends so, the documents that were open under their URI when the
interpreter went away show no diagnostics, and the others show none or those that they showed. -/
theorem empty_until_run_ends (h : History) (refusal : Option Failure) {interpreter : Datum}
    (hoff : interpreter.isOn = false) {moves : List Move}
    (hsets : ∀ m ∈ moves, ¬ m.SetsInterpreter) :
    ((∀ front, front <+: moves → ∀ uri,
        (((h.move (.event (.named refusal interpreter))).run front).session.view uri).IsEmpty) ↔
      ∀ front m, front ++ [m] <+: moves →
        m.EndsQuietly ((h.move (.event (.named refusal interpreter))).run front)) ∧
    (∀ (s : Session) (uri : String), (s.view uri).IsEmpty → HasPath uri →
      ∀ reading first last, hints reading uri first last s = (.ok [], s)) ∧
    ((∀ front m, front ++ [m] <+: moves →
        m.EndsQuietly ((h.move (.event (.named refusal interpreter))).run front)) →
      ∀ uri,
        ((h.move (.event (.named refusal interpreter))).run moves).session.shown? uri = some [] ∨
          h.session.document? uri = none ∧
            ((h.move (.event (.named refusal interpreter))).run moves).session.shown? uri =
              h.session.shown? uri) := by
  have hnone : (h.move (.event (.named refusal interpreter))).session.hasInterpreter = false := by
    have hinterpreter := (Event.named refusal interpreter).act_interpreter h.session
    exact (congrArg Datum.isOn hinterpreter).trans hoff
  have hview := fun uri => view_changeInterpreter_off refusal hoff uri h.session
  refine ⟨isEmpty_run_iff hnone (fun uri => ?_) hsets, fun s uri => hints_of_isEmpty, ?_⟩
  · exact (hview uri).symm ▸ View.isEmpty_none _
  · intro hquiet uri
    rcases shown?_run hnone hsets hquiet uri with hempty | hsame
    · exact .inl hempty
    · have hshown := hsame.trans (congrArg View.shown (hview uri))
      by_cases hopen : h.session.document? uri = none
      · exact .inr ⟨hopen, hshown.trans (if_pos hopen)⟩
      · exact .inl (hshown.trans (if_neg hopen))

end Empty

section Decoding

attribute [local instance] Editor.decoding

/-- A history with a run of a document that is going. -/
def firstRunGoing : History :=
  (fresh (.text "/py") (.text "native")).run [.event (.opened "file:///work/a.py" "f = 1"), .start]

/-- The end of a run that wrote one block. -/
def oneBlockWritten : Move :=
  .finish 0 none (.ok [{ line := 1, lineCount := 1, name := "f", args := "", text := "x\n" }])

/-- A history with a run of a document that is going, and the document changed meanwhile. -/
def textChanged : History :=
  firstRunGoing.move (.event (.changed "file:///work/a.py" "f = 2"))

/-- The interpreter goes away, and then the run that is going writes one block. -/
def runOutlived (h : History) : History :=
  (h.move (.event (.named none .absent))).run [oneBlockWritten]

/-- A run that ends without an interpreter leaves nothing behind if its document changed
meanwhile. -/
theorem empty_after_changed_document :
    (textChanged.runOutlived.session.view "file:///work/a.py").IsEmpty ∧
      hints (.ok "") "file:///work/a.py" 0 9 textChanged.runOutlived.session =
        (.ok [], textChanged.runOutlived.session) ∧
      textChanged.runOutlived.session.shown? "file:///work/a.py" = some [] := by
  have hsets : ∀ m ∈ [oneBlockWritten], ¬ m.SetsInterpreter := by
    intro m hm
    obtain rfl := List.mem_singleton.1 hm
    exact fun h => h
  have hoff : Datum.isOn .absent = false := rfl
  obtain ⟨hempty, hhints, hshown⟩ := empty_until_run_ends textChanged none hoff hsets
  -- The run is the one of the document that changed, which is run again when it ends.
  have hquiet : ∀ front m, front ++ [m] <+: [oneBlockWritten] →
      m.EndsQuietly ((textChanged.move (.event (.named none .absent))).run front) := by
    rintro front m ⟨back, hback⟩
    cases front with
    | cons first front => simp at hback
    | nil =>
        obtain ⟨rfl, -⟩ : m = oneBlockWritten ∧ back = [] := by simpa using hback
        intro task htask
        have huri : ((textChanged.move (.event (.named none .absent))).going[0]?).map Task.uri =
            some "file:///work/a.py" := by decide +kernel
        change (textChanged.move (.event (.named none .absent))).going[0]? = some task at htask
        rw [htask, Option.map_some, Option.some.injEq] at huri
        rw [huri]
        exact .inr ⟨by decide +kernel, ⟨"f = 2", by decide +kernel⟩, ⟨"/work/a.py", by rfl⟩⟩
  have hafter := hempty.2 hquiet _ List.prefix_rfl "file:///work/a.py"
  refine ⟨hafter, hhints _ _ hafter ⟨"/work/a.py", by rfl⟩ (.ok "") 0 9, ?_⟩
  exact (hshown hquiet _).resolve_right fun hnone => absurd hnone.1 (by decide +kernel)

/-- A run that ends without an interpreter leaves its blocks behind, and they are hinted. -/
theorem exists_hint_without_interpreter :
    firstRunGoing.IsReachable (· = "file:///work/a.py") ∧ oneBlockWritten.IsOrdinary ∧
      firstRunGoing.runOutlived.session.hasInterpreter = false ∧
      (hints (.ok "") "file:///work/a.py" 0 9 firstRunGoing.runOutlived.session).1 =
        .ok [{ line := 0, character := 5, label := "f(): 1 lines native" }] := by
  refine ⟨⟨_, _, _, ?_, rfl⟩, fun _ h => (nomatch h), by decide +kernel, by decide +kernel⟩
  simp [Move.Over, Event.Over]

end Decoding

end History

end JitExplorer.Session
