/-
**Documents that were closed.**

When a document is closed, what is kept for it is dropped and its diagnostics are withdrawn.  But a
run of it that was under way goes on, and when it ends its result is kept and shown as if the
document were open.  Nor is a save told apart from one of an open document: the closed one is read,
and is run or skipped.  So while no text is given for it, a closed document stays cleared exactly
until a run of it ends or it is skipped when it is saved, and for good if no run of it was under way
and it is not read.

Main definitions:

* `Session.Move.Gives`, `Session.Move.Reads` — a text is given for a document, or read;
* `Session.Move.Skips` — a text is read, and not run for want of an interpreter;
* `Session.History.IsClosed` — a document is not open, and nothing is kept or shown for it;
* `Session.History.IsGone` — moreover no run of it is under way.

Main results:

* `Session.History.IsClosed.move`, `Session.History.IsGone.move` — what one step keeps;
* `Session.History.endedOf_move_of_cleared`, `Session.History.not_skips_of_cleared` — neither the
  end of a run nor a skipped save clears anything;
* `Session.History.cleared_until_run_ends` — **how long a closed document stays cleared.**
-/

import JitExplorer.Proofs.Session.View
import JitExplorer.Session.DecodingEditor

set_option autoImplicit false

namespace JitExplorer.Session

section Cleared

variable [Editor]

/-- A text is given for the document with a key. -/
def Move.Gives (key : String) : Move → Prop
  | .event e => e.Gives key
  | .start => False
  | .finish _ _ _ => False

/-- A source is saved, and is read if it is not open. -/
def Move.Reads (uri : String) : Move → Prop
  | .event e => e.Reads uri
  | .start => False
  | .finish _ _ _ => False

/-- A source is saved and read, and is not run for want of an interpreter. -/
def Move.Skips (uri : String) (h : History) (m : Move) : Prop :=
  m.Reads uri ∧ h.session.hasInterpreter = false

namespace History

variable {h : History} {uri : String} {m : Move}

/-! ### Runs that have ended -/

/-- What has ended stays so. -/
theorem endedOf_suffix_move (uri : String) (h : History) (m : Move) :
    h.endedOf uri <:+ (h.move m).endedOf uri := by
  cases m with
  | event event => exact List.suffix_rfl
  | start =>
      simp only [move]
      split
      · exact List.suffix_rfl
      · exact List.suffix_rfl
  | finish place refusal result =>
      simp only [move]
      split
      · exact List.suffix_rfl
      · rw [endedOf_cons]
        exact List.suffix_append _ _

theorem endedOf_suffix_run (uri : String) (h : History) (moves : List Move) :
    h.endedOf uri <:+ (h.run moves).endedOf uri := by
  induction moves generalizing h with
  | nil => exact List.suffix_rfl
  | cons m moves ih => exact (endedOf_suffix_move uri h m).trans (ih (h.move m))

/-- If no run of a document ended in several steps, none ended in the first ones of them. -/
theorem endedOf_run_front {front moves : List Move} (hfront : front <+: moves)
    (hended : (h.run moves).endedOf uri = h.endedOf uri) :
    (h.run front).endedOf uri = h.endedOf uri := by
  obtain ⟨back, rfl⟩ := hfront
  have hrun : h.run (front ++ back) = (h.run front).run back := List.foldl_append
  have hbefore := endedOf_suffix_run uri h front
  have hafter := endedOf_suffix_run uri (h.run front) back
  rw [← hrun, hended] at hafter
  exact hafter.eq_of_length_le hbefore.length_le

/-- A run of a document that ends is one more that has ended. -/
theorem endedOf_finish_ne {place : Nat} {task : Task} (hplace : h.going[place]? = some task)
    (refusal : Option Failure) (result : Except Invocation.Fault (List Block)) :
    (h.move (.finish place refusal result)).endedOf task.uri ≠ h.endedOf task.uri := by
  simp only [move, hplace, endedOf_cons, if_true]
  intro heq
  have hlength := congrArg List.length heq
  simp [endedOf] at hlength

/-! ### Closed documents -/

/-- A document is not open, and nothing is kept or shown for it. -/
structure IsClosed (uri : String) (h : History) : Prop where
  view : h.session.view uri = .cleared
  document : h.session.document? (Editor.key uri) = none

theorem isClosed_closed (uri : String) (h : History) :
    IsClosed uri (h.move (.event (.closed uri))) where
  view := view_closeDocument_self uri h.session
  document := by
    rw [History.move, document?, Event.act_documents]
    exact find?_filter_self (Editor.key uri) h.session.documents

/-- **What one step keeps of a closed document:** it stays cleared if no text is given for it, it is
not skipped, and no run of it ends. -/
theorem IsClosed.move (hclosed : IsClosed uri h) (hgives : ¬ m.Gives (Editor.key uri))
    (hskips : ¬ m.Skips uri h) (hended : (h.move m).endedOf uri = h.endedOf uri) :
    IsClosed uri (h.move m) := by
  cases m with
  | event event =>
      refine ⟨?_, event.document?_act hgives hclosed.document⟩
      have hredraws := event.redraws uri h.session
      generalize hview : (event.act h.session).2.view uri = after at hredraws
      refine hview.trans ?_
      cases hredraws with
      | kept => exact hclosed.view
      | skipped hoff hcause =>
          rcases hcause with hgiven | hopen | hreads
          · exact absurd hgiven hgives
          · exact absurd hclosed.document hopen
          · exact absurd ⟨hreads, hoff⟩ hskips
      | cleared => rfl
      | wiped =>
          obtain ⟨-, -, hshown⟩ := View.mk.inj hclosed.view
          rw [hshown, ite_self]
          rfl
  | start =>
      rcases h.move_start_cases with hstart | ⟨task, queue, -, hstart⟩
      · rwa [hstart]
      · rw [hstart]
        exact ⟨hclosed.view, hclosed.document⟩
  | finish place refusal result =>
      cases hplace : h.going[place]? with
      | none => simpa only [History.move, hplace] using hclosed
      | some task =>
          have hne : task.uri ≠ uri := by
            rintro rfl
            exact endedOf_finish_ne hplace refusal result hended
          simp only [History.move, hplace]
          refine ⟨?_, ?_⟩
          · exact (view_conclude_of_ne hne refusal result h.session).trans hclosed.view
          · rw [document?, conclude_documents]
            exact hclosed.document

/-- A closed document stays cleared while no text is given for it, it is not skipped, and no run of
it ends. -/
theorem IsClosed.run {moves : List Move} (hclosed : IsClosed uri h)
    (hgives : ∀ m ∈ moves, ¬ m.Gives (Editor.key uri))
    (hskips : ∀ front m, front ++ [m] <+: moves → ¬ m.Skips uri (h.run front))
    (hended : (h.run moves).endedOf uri = h.endedOf uri) : IsClosed uri (h.run moves) := by
  induction moves generalizing h with
  | nil => exact hclosed
  | cons m moves ih =>
      obtain ⟨hm, hmoves⟩ := List.forall_mem_cons.1 hgives
      have hfirst : (h.move m).endedOf uri = h.endedOf uri :=
        endedOf_run_front (List.prefix_append [m] moves) hended
      have hself : ¬ m.Skips uri h := hskips [] m (List.prefix_append [m] moves)
      have hothers : ∀ front m', front ++ [m'] <+: moves → ¬ m'.Skips uri ((h.move m).run front) :=
        fun front m' hmore => hskips (m :: front) m' ((List.prefix_cons_inj m).2 hmore)
      exact ih (hclosed.move hm hself hfirst) hmoves hothers (hended.trans hfirst.symm)

/-- **The end of a run clears nothing:** a document that is cleared after a step is none whose run
ended in that step. -/
theorem endedOf_move_of_cleared (hordinary : m.IsOrdinary)
    (hcleared : (h.move m).session.view uri = .cleared) :
    (h.move m).endedOf uri = h.endedOf uri := by
  cases m with
  | event event => rfl
  | start =>
      rcases h.move_start_cases with hstart | ⟨task, queue, -, hstart⟩
      · rw [hstart]
      · rw [hstart]
        rfl
  | finish place refusal result =>
      cases hplace : h.going[place]? with
      | none => simp only [History.move, hplace]
      | some task =>
          simp only [History.move, hplace] at hcleared ⊢
          rw [endedOf_cons]
          split
          · rename_i heq
            subst heq
            exact absurd hcleared (view_conclude_ne_cleared task.uri refusal hordinary h.session)
          · rfl

/-- A document that is cleared at every step is none whose run ended. -/
theorem endedOf_run_of_cleared {moves : List Move} (hordinary : ∀ m ∈ moves, m.IsOrdinary)
    (hcleared : ∀ front, front <+: moves → (h.run front).session.view uri = .cleared) :
    (h.run moves).endedOf uri = h.endedOf uri := by
  induction moves generalizing h with
  | nil => rfl
  | cons m moves ih =>
      obtain ⟨hm, hmoves⟩ := List.forall_mem_cons.1 hordinary
      have hfirst : (h.move m).session.view uri = .cleared :=
        hcleared [m] (List.prefix_cons_inj m |>.2 (List.nil_prefix))
      have hothers : ((h.move m).run moves).endedOf uri = (h.move m).endedOf uri :=
        ih hmoves fun front hfront => hcleared (m :: front) (List.prefix_cons_inj m |>.2 hfront)
      exact hothers.trans (endedOf_move_of_cleared hm hfirst)

/-- **A skipped save clears nothing:** a document that is cleared after a step was not skipped in
it. -/
theorem not_skips_of_cleared (hcleared : (h.move m).session.view uri = .cleared) :
    ¬ m.Skips uri h := by
  rintro ⟨hreads, hoff⟩
  cases m with
  | event event =>
      cases event with
      | saved other reading =>
          obtain ⟨rfl, hsource, hreading⟩ := hreads
          have hread := readText?_ne_none hreading other h.session
          have hskipped := view_documentChanged_skipped "onDidSave" hsource hoff hread
          exact absurd (hskipped.symm.trans hcleared) (by simp [View.skipped, View.cleared])
      | _ => exact hreads
  | start => exact hreads
  | finish place refusal result => exact hreads

/-! ### Documents without a run -/

/-- A document is closed, no other document is known by its URI, and no run of it is under way. -/
structure IsGone (uri : String) (h : History) : Prop extends IsClosed uri h where
  unknown : h.session.document? uri = none
  underway : h.underway uri = []

/-- Nothing becomes of a document that is saved, if it is neither open nor read. -/
theorem handled_of_not_reads {reading : Except Failure String} {s : Session}
    (hclosed : s.document? (Editor.key uri) = none)
    (hreads : ¬ (Event.saved uri reading).Reads uri) :
    s.handled reading uri = s := by
  unfold handled
  cases hpath : Uri.filePath uri with
  | error failure => rfl
  | ok path =>
      simp only
      split
      · rename_i hsource
        rw [readText?_of_closed hclosed]
        cases reading with
        | ok text => exact absurd ⟨rfl, ⟨path, hpath, hsource⟩, rfl⟩ hreads
        | error failure => rfl
      · rfl

/-- No run is asked for by an event for a document that is not open, neither by its key nor by its
URI, unless it is read. -/
theorem queued_act {event : Event} {s : Session} (hkey : ¬ event.Gives (Editor.key uri))
    (hgives : ¬ event.Gives uri) (hreads : ¬ event.Reads uri)
    (hclosed : s.document? (Editor.key uri) = none) (hunknown : s.document? uri = none) :
    (event.act s).2.queued uri = s.queued uri := by
  have hcore : (event.act s).2.core.queued uri = (event.next s).core.queued uri :=
    congrArg (queued uri) (event.act_core s)
  refine (show (event.act s).2.queued uri = (event.next s).queued uri from hcore).trans ?_
  have hreplaced : ∀ other text, Editor.key other ≠ Editor.key uri → Editor.key other ≠ uri →
      (s.replaced other text).queued uri = s.queued uri := by
    intro other text hne hother
    exact (untouched_replaced (fun heq => hne (congrArg Editor.key heq)) hother text s).queued
  cases event with
  | opened other text => exact hreplaced other text hkey hgives
  | changed other text => exact hreplaced other text hkey hgives
  | saved other reading =>
      by_cases heq : other = uri
      · subst heq
        rw [Event.next, handled_of_not_reads hclosed hreads]
      · exact (untouched_handled heq reading s).queued
  | closed other => rfl
  | named refusal interpreter =>
      simp only [Event.next, Session.named]
      split
      · refine spread_keeps (P := fun t => t.queued uri = s.queued uri) ?_ rfl
        intro document hmem text path t ht
        have hne : document.uri ≠ uri := by
          rintro rfl
          simpa [document?] using List.find?_eq_none.1 hunknown document hmem
        exact (untouched_submitted hne text path t).queued.trans ht
      · rfl

/-- **A document without a run is not given one** while no text is given for it and it is not read.
-/
theorem IsGone.move (hgone : IsGone uri h) (hkey : ¬ m.Gives (Editor.key uri))
    (hgives : ¬ m.Gives uri) (hreads : ¬ m.Reads uri) : IsGone uri (h.move m) := by
  have hskips : ¬ m.Skips uri h := fun hskips => hreads hskips.1
  obtain ⟨hqueued, hgoing⟩ := List.append_eq_nil_iff.1 hgone.underway
  cases m with
  | event event =>
      refine ⟨hgone.toIsClosed.move hkey hskips rfl, event.document?_act hgives hgone.unknown, ?_⟩
      have hkept := queued_act hkey hgives hreads hgone.document hgone.unknown
      exact List.append_eq_nil_iff.2 ⟨hkept.trans hqueued, hgoing⟩
  | start =>
      rcases h.move_start_cases with hstart | ⟨task, queue, hqueue, hstart⟩
      · rwa [hstart]
      · rw [hstart]
        refine ⟨⟨hgone.view, hgone.document⟩, hgone.unknown, ?_⟩
        have hperm := underway_start_perm hqueue uri
        rw [hgone.underway] at hperm
        exact hperm.eq_nil
  | finish place refusal result =>
      cases hplace : h.going[place]? with
      | none => simpa only [History.move, hplace] using hgone
      | some task =>
          have hne := uri_ne_of_goingOf_eq_nil hgoing hplace
          have hended : (h.move (.finish place refusal result)).endedOf uri = h.endedOf uri := by
            simp only [History.move, hplace, endedOf_cons, if_neg hne, List.nil_append]
            rfl
          have hclosed := hgone.toIsClosed.move hkey hskips hended
          simp only [History.move, hplace] at hclosed ⊢
          refine ⟨hclosed, ?_, List.append_eq_nil_iff.2 ⟨?_, ?_⟩⟩
          · rw [document?, conclude_documents]
            exact hgone.unknown
          · refine conclude_keeps (P := fun t => t.queued uri = []) ?_ ?_ ?_ refusal result hqueued
            · intro t r hbare hr
              have hqueue : t.bare.queued uri = r.bare.queued uri := congrArg (queued uri) hbare
              exact hqueue.trans hr
            · exact fun text path t ht => (untouched_submitted hne text path t).queued.trans ht
            · exact fun _ ht => ht
          · exact (goingOf_eraseIdx_other hplace hne _ _).trans hgoing

theorem IsGone.run {moves : List Move} (hgone : IsGone uri h)
    (hgives : ∀ m ∈ moves, ¬ m.Gives (Editor.key uri) ∧ ¬ m.Gives uri ∧ ¬ m.Reads uri) :
    IsGone uri (h.run moves) := by
  induction moves generalizing h with
  | nil => exact hgone
  | cons m moves ih =>
      obtain ⟨⟨hkey, hm, hreads⟩, hmoves⟩ := List.forall_mem_cons.1 hgives
      exact ih (hgone.move hkey hm hreads) hmoves

/-! ### How long a closed document stays cleared -/

/-- **How long a closed document stays cleared.**  In any history, a document that is closed is
cleared.  While no text is given for it, it stays cleared if no run of it ends and it is not skipped
when it is saved, whatever else the editor does and whatever other runs end with.  If it stays
cleared at every step, no run of it ended with blocks or with an ordinary failure, and it was not
skipped.  If no run of it was under way and no other document is known by its URI, it stays cleared
for good while it is not read. -/
theorem cleared_until_run_ends (h : History) (uri : String) :
    (∀ moves : List Move, (∀ m ∈ moves, ¬ m.Gives (Editor.key uri)) →
      ((h.move (.event (.closed uri))).run moves).endedOf uri = h.endedOf uri →
        (∀ front m, front ++ [m] <+: moves →
          ¬ m.Skips uri ((h.move (.event (.closed uri))).run front)) →
          ∀ front, front <+: moves →
            ((h.move (.event (.closed uri))).run front).session.view uri = .cleared) ∧
    (∀ moves : List Move, (∀ m ∈ moves, m.IsOrdinary) →
      (∀ front, front <+: moves →
        ((h.move (.event (.closed uri))).run front).session.view uri = .cleared) →
          ((h.move (.event (.closed uri))).run moves).endedOf uri = h.endedOf uri ∧
            ∀ front m, front ++ [m] <+: moves →
              ¬ m.Skips uri ((h.move (.event (.closed uri))).run front)) ∧
    ((h.move (.event (.closed uri))).underway uri = [] →
      (h.move (.event (.closed uri))).session.document? uri = none →
        ∀ moves : List Move,
          (∀ m ∈ moves, ¬ m.Gives (Editor.key uri) ∧ ¬ m.Gives uri ∧ ¬ m.Reads uri) →
            ((h.move (.event (.closed uri))).run moves).session.view uri = .cleared) := by
  have hclosed := isClosed_closed uri h
  refine ⟨?_, ?_, ?_⟩
  · intro moves hgives hended hskips front hfront
    have hfronts : ∀ m ∈ front, ¬ m.Gives (Editor.key uri) :=
      fun m hm => hgives m (hfront.subset hm)
    exact (hclosed.run hfronts (fun front' m hmore => hskips front' m (hmore.trans hfront))
      (endedOf_run_front hfront hended)).view
  · intro moves hordinary hcleared
    refine ⟨endedOf_run_of_cleared hordinary hcleared, fun front m hmore => ?_⟩
    refine not_skips_of_cleared ?_
    rw [← run_concat]
    exact hcleared _ hmore
  · intro hunderway hunknown moves hgives
    exact (IsGone.run ⟨hclosed, hunknown, hunderway⟩ hgives).view

end History

end Cleared

namespace History

section Decoding

attribute [local instance] Editor.decoding

/-- A history with a run of one document that has ended, and one of another that is going. -/
def oneRunGoing : History :=
  (fresh (.text "/py") (.text "native")).run
    [.event (.opened "file:///work/a.py" "1"), .start,
      .finish 0 none (.ok [{ line := 1, lineCount := 1, name := "f", args := "", text := "x\n" }]),
      .event (.opened "file:///work/b.py" "2"), .start]

/-- A document whose run has ended stays cleared when the run of another one ends. -/
theorem cleared_while_other_run_ends :
    (oneRunGoing.move (.event (.closed "file:///work/a.py"))).underway "file:///work/a.py" = [] ∧
      ((oneRunGoing.move (.event (.closed "file:///work/a.py"))).run
        [.finish 0 none (.error .stopped)]).endedOf "file:///work/a.py" =
          oneRunGoing.endedOf "file:///work/a.py" ∧
      ((oneRunGoing.move (.event (.closed "file:///work/a.py"))).run
        [.finish 0 none (.error .stopped)]).session.view "file:///work/a.py" = .cleared := by
  obtain ⟨hkept, hended, hgone⟩ := cleared_until_run_ends oneRunGoing "file:///work/a.py"
  have hmoves : ∀ m ∈ [Move.finish 0 none (.error .stopped)],
      m.IsOrdinary ∧ (∀ key, ¬ m.Gives key) ∧ ¬ m.Reads "file:///work/a.py" := by
    intro m hm
    obtain rfl := List.mem_singleton.1 hm
    exact ⟨fun _ h => (nomatch h), fun _ h => h, fun h => h⟩
  have hunderway : (oneRunGoing.move (.event (.closed "file:///work/a.py"))).underway
      "file:///work/a.py" = [] := by decide +kernel
  have hcleared := hgone hunderway (by decide +kernel)
  have hfronts : ∀ front, front <+: [Move.finish 0 none (.error .stopped)] →
      ((oneRunGoing.move (.event (.closed "file:///work/a.py"))).run front).session.view
        "file:///work/a.py" = .cleared := by
    intro front hfront
    refine hcleared front fun m hm => ?_
    obtain ⟨-, hgives, hreads⟩ := hmoves m (hfront.subset hm)
    exact ⟨hgives _, hgives _, hreads⟩
  obtain ⟨hsame, hskips⟩ := hended _ (fun m hm => (hmoves m hm).1) hfronts
  refine ⟨hunderway, hsame, ?_⟩
  exact hkept _ (fun m hm => (hmoves m hm).2.1 _) hsame hskips _ List.prefix_rfl

/-- A run that fails after its document was closed leaves its message behind. -/
theorem exists_shown_after_closing :
    ∃ (h : History) (moves : List Move), h.IsReachable (· = "file:///work/a.py") ∧
      (∀ m ∈ moves, m.IsOrdinary ∧ ¬ m.Gives (Editor.key "file:///work/a.py")) ∧
      ((h.move (.event (.closed "file:///work/a.py"))).run moves).session.view
          "file:///work/a.py" =
        ⟨some [], some [{ message := "boom" }], some [{ message := "boom" }]⟩ := by
  refine ⟨(fresh (.text "/py") (.text "native")).run
      [.event (.opened "file:///work/a.py" "1"), .start],
    [.finish 0 none (.error (.exited 1 (some "boom")))], ⟨_, _, _, ?_, rfl⟩, ?_,
    by decide +kernel⟩
  · simp [Move.Over, Event.Over]
  · intro m hm
    obtain rfl := List.mem_singleton.1 hm
    exact ⟨fun _ h => (nomatch h), fun h => h⟩

end Decoding

end History

end JitExplorer.Session
