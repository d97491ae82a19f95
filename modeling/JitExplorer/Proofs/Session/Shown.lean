/-
**The editor shows what is kept, if sources are known by their URIs.**

While no run of an open source is under way, the editor relies on this: the diagnostics that were
published last for it are those that the server keeps.  Runs publish under the URI as the editor
writes it, but an interpreter that goes away withdraws diagnostics under the URIs by which open
documents are known.  So the editor can rely on it exactly if no document but the source itself is
known by the URI of a source, and nothing fails at the end of a run in a way that may not be
handled.

Main definitions:

* `Session.View.IsConsistent`, `Session.History.ShowsKept` — what is shown for a document is what is
  kept for it;
* `Session.KnownApart` — no document but the source itself is known by the URI of a source;
* `Session.History.IsWithin` — the histories with some URIs and some failures.

Main results:

* `Session.view_conclude_consistent` — the end of a run shows what it keeps;
* `Session.History.IsShown.move` — a step keeps what is shown and what is kept together;
* `Session.exists_outdated_of_key_ne`, `Session.exists_outdated_of_key_eq`,
  `Session.exists_outdated_of_not_mayBeHandled` — documents that show an outdated error;
* `Session.showsKept_iff_knownApart` — **when the editor shows what is kept.**
-/

import JitExplorer.Proofs.Session.View
import JitExplorer.Proofs.Session.EditsKept

set_option autoImplicit false

namespace JitExplorer.Session

open History

/-! ### Views that agree with themselves -/

/-- What is shown for a document is what is kept for it; nothing counts as no diagnostics. -/
def View.IsConsistent (v : View) : Prop :=
  v.shown.getD [] = v.diagnostics.getD []

/-- **The editor shows what is kept for a document:** if it is an open source and no run of it is
under way, the diagnostics that were published last are those that are kept. -/
def History.ShowsKept [Editor] (uri : String) (h : History) : Prop :=
  IsSource uri → h.session.document? (Editor.key uri) ≠ none → h.underway uri = [] →
    (h.session.shown? uri).getD [] = (h.session.diagnostics.get? uri).getD []

/-- No document but the source itself is known by the URI of a source. -/
def KnownApart [Editor] (uris : String → Prop) : Prop :=
  ∀ uri other, uris uri → IsSource uri → uris other → HasPath other →
    (Editor.key other = uri ↔ other = uri)

/-- A step in which the editor writes only the given URIs, and if a run ends, only the given
failures come out of its process and of the refresh of the hints. -/
def Move.Within (uris : String → Prop) (failures : Failure → Prop) : Move → Prop
  | .event e => e.Over uris
  | .start => True
  | .finish _ refusal result =>
      (∀ failure, refusal = some failure → failures failure) ∧
        ∀ failure, result = .error (.raised failure) → failures failure

/-- A history that a server can come to with the given URIs and failures. -/
def History.IsWithin [Editor] (uris : String → Prop) (failures : Failure → Prop)
    (h : History) : Prop :=
  ∃ interpreter stage moves, (∀ m ∈ moves, Move.Within uris failures m) ∧
    h = (fresh interpreter stage).run moves

/-- A failure that may be handled. -/
def MayBeHandled (failure : Failure) : Prop :=
  failure.isOrdinary = true

theorem Move.Within.over {uris : String → Prop} {m : Move} (h : m.Within uris MayBeHandled) :
    m.Over uris := by
  cases m with
  | event e => exact h
  | start => trivial
  | finish place refusal result => exact h.2

theorem Move.Within.mono {uris vris : String → Prop} {failures : Failure → Prop} {m : Move}
    (h : m.Within uris failures) (huris : ∀ uri, uris uri → vris uri)
    (hfailures : ∀ failure, failures failure → MayBeHandled failure) :
    m.Within vris MayBeHandled := by
  cases m with
  | event e => exact Move.Over.mono (m := .event e) huris h
  | start => trivial
  | finish place refusal result =>
      exact ⟨fun failure hrefusal => hfailures failure (h.1 failure hrefusal),
        fun failure hresult => hfailures failure (h.2 failure hresult)⟩

/-! ### The end of a run -/

section Conclude

variable {uri : String} {result : Except Invocation.Fault (List Block)} {refusal : Option Failure}

/-- A refusal that may be handled does no harm. -/
theorem refresh_ok (h : ∀ failure, refusal = some failure → MayBeHandled failure) (s : Session) :
    (refresh refusal s).1 = .ok () := by
  simp only [refresh, Act.modify_bind_apply]
  cases refusal with
  | none => rfl
  | some failure =>
      have hordinary : failure.isOrdinary = true := h failure rfl
      simp only [hordinary, if_true, note, Act.modify_apply]

/-- The outcome of a process is kept and shown. -/
theorem view_settle (hresult : IsOrdinaryResult result)
    (hrefusal : ∀ failure, refusal = some failure → MayBeHandled failure) (s : Session) :
    (settle uri refusal result s).2.view uri =
      ⟨some (resultBlocks result), some (resultDiagnostics result),
        some (resultDiagnostics result)⟩ := by
  match result with
  | .error .stopped => exact view_publish_store_self uri _ _ _
  | .error (.exited code errors) => exact view_publish_store_self uri _ _ _
  | .error (.raised failure) =>
      rw [settle, settleFailure_of_isOrdinary uri (hresult failure rfl)]
      exact view_publish_store_self uri _ _ _
  | .ok blocks =>
      let stored := (s.store uri blocks []).addLog .info
        ("Cache updated for " ++ uri ++ " with " ++ Text.natText blocks.length ++
          " blocks (total time: 0ms)")
      have hview : (refresh refusal stored).2.view uri = ⟨some blocks, some [], s.shown? uri⟩ :=
        (view_refresh refusal uri stored).trans (view_store_self uri blocks [] s)
      obtain ⟨-, hdiagnostics, -⟩ := View.mk.inj hview
      simp only [settle, Act.modify_bind_apply, note_bind_apply]
      rw [Act.bind_apply, Act.bind_ok _ (Prod.ext (refresh_ok hrefusal stored) rfl)]
      refine (view_publish_self uri _).trans ?_
      rw [hview, hdiagnostics]
      rfl

/-- **The end of a run shows what it keeps.** -/
theorem view_conclude_consistent (hresult : IsOrdinaryResult result)
    (hrefusal : ∀ failure, refusal = some failure → MayBeHandled failure) (s : Session) :
    ((conclude uri refusal result s).2.view uri).IsConsistent := by
  by_cases hskipped : s.hasInterpreter = false ∧ RunsAgain uri s
  · rw [view_conclude_skipped hskipped.2 hskipped.1]
    rfl
  · rw [view_conclude fun hoff hagain => hskipped ⟨hoff, hagain⟩, view_settle hresult hrefusal]
    rfl

end Conclude

/-! ### What the editor does -/

section Events

variable [Editor] {uri : String} {s : Session}

/-- A source that is given a text has a run under way, or is skipped. -/
theorem isRunning_or_skipped (event text : String) (hsource : IsSource uri) (s : Session) :
    (s.replaced uri text).isRunning uri = true ∨
      ((replaceText uri text >>= fun _ => documentChanged event (.ok text) uri) s).2.view uri =
        .skipped := by
  cases hon : s.hasInterpreter with
  | true =>
      left
      obtain ⟨path, hpath, hsource⟩ := hsource
      have hserved : ({ s with documents := enterDocument (Editor.key uri) text s.documents } :
          Session).hasInterpreter = true := hon
      rw [replaced_of_source hpath hsource, submitted, if_pos hserved]
      split
      · assumption
      · rw [isRunning_enqueued, if_pos rfl]
  | false =>
      right
      have hput := Editor.put_of_hasPath uri text s.documents hsource.hasPath
      simp only [replaceText, hput, Act.bind_apply, Act.bind, Act.look_apply]
      exact view_documentChanged_skipped event hsource hon (readText?_ne_none rfl uri _)

/-- No event takes a run away from a document. -/
theorem Event.isRunning_next (event : Event) (h : s.isRunning uri = true) :
    (event.next s).isRunning uri = true := by
  have hsubmitted : ∀ other text path (t : Session), t.isRunning uri = true →
      (t.submitted text path other).isRunning uri = true :=
    fun other text path t ht => submitted_isRunning ht text path other
  have hreplaced : ∀ other text, (s.replaced other text).isRunning uri = true := by
    intro other text
    exact replaced_cases (P := fun t => t.isRunning uri = true) h
      fun _ => handled_keeps (hsubmitted other) h
  cases event with
  | opened other text => exact hreplaced other text
  | changed other text => exact hreplaced other text
  | saved other reading => exact handled_keeps (hsubmitted other) h
  | closed other => exact h
  | named refusal interpreter =>
      simp only [Event.next, Session.named]
      split
      · exact spread_keeps (fun d _ => hsubmitted d.uri) h
      · exact h

theorem Event.isRunning_act (event : Event) (uri : String) (s : Session) :
    (event.act s).2.isRunning uri = (event.next s).isRunning uri := by
  have hcore : (event.act s).2.core.isRunning uri = (event.next s).core.isRunning uri :=
    congrArg (isRunning uri) (event.act_core s)
  exact hcore

end Events

/-! ### What is shown and what is kept stay together -/

/-- While a document is open under its URI, a run of it is under way, or what is kept is shown. -/
def History.IsShown (uri : String) (h : History) : Prop :=
  h.session.document? uri ≠ none →
    h.session.isRunning uri = true ∨ (h.session.view uri).IsConsistent

namespace History

variable [Editor] {uri : String} {h : History} {m : Move}

/-- A source that was not open is run or skipped when it is given a text. -/
theorem IsShown.of_given (hsource : IsSource uri) {event : Event} {s : Session}
    (hevent : event.Over fun other => HasPath other → (Editor.key other = uri ↔ other = uri))
    (hgives : event.Gives uri) (hnone : s.document? uri = none) :
    (event.act s).2.document? uri = none ∨ (event.act s).2.isRunning uri = true ∨
      ((event.act s).2.view uri).IsConsistent := by
  rw [document?, event.act_documents, event.isRunning_act]
  -- A text is given under a URI that leads to a path, and so under that of the source, or not at
  -- all.
  have hgiven : ∀ name other text, Editor.key other = uri →
      (HasPath other → (Editor.key other = uri ↔ other = uri)) →
        (s.replaced other text).document? uri = none ∨
          (s.replaced other text).isRunning uri = true ∨
            (((replaceText other text >>= fun _ => documentChanged name (.ok text) other) s).2.view
              uri).IsConsistent := by
    intro name other text hother hknown
    by_cases hpath : HasPath other
    · obtain rfl := (hknown hpath).1 hother
      refine .inr ((isRunning_or_skipped name text hsource s).imp_right fun hskipped => ?_)
      rw [hskipped]
      rfl
    · rw [replaced_of_not_hasPath hpath]
      exact .inl hnone
  cases event with
  | opened other text => exact hgiven "onDidOpen" other text hgives hevent
  | changed other text => exact hgiven "onDidChangeContent" other text hgives hevent
  | saved other reading => exact hgives.elim
  | closed other => exact hgives.elim
  | named refusal interpreter => exact hgives.elim

/-- **A step keeps what is shown and what is kept together.** -/
theorem IsShown.move (hshown : h.IsShown uri) (hsource : IsSource uri)
    (hkey : Editor.key uri = uri)
    (hm : m.Within (fun other => HasPath other → (Editor.key other = uri ↔ other = uri))
      MayBeHandled) : (h.move m).IsShown uri := by
  intro hopen
  cases m with
  | event event =>
      by_cases hbefore : h.session.document? uri = none
      · have hgives : event.Gives uri :=
          Classical.byContradiction fun hgives => hopen (Event.document?_act hgives hbefore)
        exact (IsShown.of_given hsource hm hgives hbefore).resolve_left hopen
      · rcases hshown hbefore with hrunning | hconsistent
        · exact .inl ((event.isRunning_act uri h.session).trans (event.isRunning_next hrunning))
        · right
          have hredraws := event.redraws uri h.session
          change ((event.act h.session).2.view uri).IsConsistent
          generalize (event.act h.session).2.view uri = after at hredraws
          cases hredraws with
          | kept => exact hconsistent
          | skipped => rfl
          | cleared => rfl
          | wiped =>
              rw [if_neg hbefore]
              rfl
  | start =>
      rcases h.move_start_cases with hstart | ⟨task, queue, -, hstart⟩
      · rw [hstart] at hopen ⊢
        exact hshown hopen
      · rw [hstart] at hopen ⊢
        exact hshown hopen
  | finish place refusal result =>
      cases hplace : h.going[place]? with
      | none =>
          simp only [History.move, hplace] at hopen ⊢
          exact hshown hopen
      | some task =>
          simp only [History.move, hplace] at hopen ⊢
          by_cases heq : task.uri = uri
          · subst heq
            exact .inr (view_conclude_consistent hm.2 hm.1 h.session)
          · have hdocuments := conclude_documents task.uri refusal result h.session
            rw [document?, hdocuments] at hopen
            have hcore := congrArg (isRunning uri) (conclude_core task.uri refusal hm.2 h.session)
            change (conclude task.uri refusal result h.session).2.isRunning uri =
              (h.session.concluded task.uri result).isRunning uri at hcore
            rw [view_conclude_of_ne heq, hcore, (untouched_concluded heq result h.session).running]
            exact hshown hopen

/-- Where no document but the source itself is known by its URI, and all failures may be handled,
the editor shows what is kept. -/
theorem IsWithin.showsKept {uris : String → Prop} (hh : h.IsWithin uris MayBeHandled)
    (hknown : KnownApart uris) (huri : uris uri) : h.ShowsKept uri := by
  intro hsource hopen hnone
  have hkey : Editor.key uri = uri := (hknown uri uri huri hsource huri hsource.hasPath).2 rfl
  obtain ⟨interpreter, stage, moves, hmoves, rfl⟩ := hh
  have hbalanced : ((fresh interpreter stage).run moves).IsBalanced :=
    IsReachable.isBalanced ⟨interpreter, stage, moves, fun m hm => (hmoves m hm).over, rfl⟩
  have hall : ∀ k : History, k.IsShown uri → (k.run moves).IsShown uri := by
    clear hopen hnone hbalanced
    induction moves with
    | nil => exact fun k hk => hk
    | cons m moves ih =>
        obtain ⟨hm, hmoves⟩ := List.forall_mem_cons.1 hmoves
        have hdistinct := hm.mono (fun other => hknown uri other huri hsource) fun _ => id
        exact fun k hk => ih hmoves _ (hk.move hsource hkey hdistinct)
  have hfresh : (fresh interpreter stage).IsShown uri := fun hsome => absurd rfl hsome
  rw [hkey] at hopen
  refine (hall _ hfresh hopen).resolve_left fun hrunning => ?_
  have hcount := (hbalanced uri).count
  obtain ⟨hqueued, hgoing⟩ := List.append_eq_nil_iff.1 hnone
  rw [hqueued, hgoing, hrunning] at hcount
  exact absurd hcount (by simp)

end History

/-! ### Documents that show an outdated error -/

/-- Two histories have the same runs under way, the same documents, and the same interpreter. -/
structure SameState (h k : History) : Prop where
  going : h.going = k.going
  queue : h.session.queue = k.session.queue
  documents : h.session.documents = k.session.documents
  interpreter : h.session.interpreter = k.session.interpreter

namespace SameState

variable {h k : History}

theorem of_core (hcore : h.core = k.core) : SameState h k := by
  have hsame : SameState h.core k.core := by
    rw [hcore]
    exact ⟨rfl, rfl, rfl, rfl⟩
  exact ⟨hsame.going, hsame.queue, hsame.documents, hsame.interpreter⟩

protected theorem trans {l : History} (hsame : SameState h k) (hother : SameState k l) :
    SameState h l where
  going := hsame.going.trans hother.going
  queue := hsame.queue.trans hother.queue
  documents := hsame.documents.trans hother.documents
  interpreter := hsame.interpreter.trans hother.interpreter

theorem hasInterpreter (hsame : SameState h k) :
    h.session.hasInterpreter = k.session.hasInterpreter := by
  rw [Session.hasInterpreter, Session.hasInterpreter, hsame.interpreter]

theorem document? (hsame : SameState h k) (key : String) :
    h.session.document? key = k.session.document? key := by
  rw [Session.document?, Session.document?, hsame.documents]

end SameState

/-- The diagnostic of a run that took too long. -/
def overdue : Diagnostic :=
  { message := faultMessage .stopped }

/-- The run that is going takes too long. -/
def stopped : Move :=
  .finish 0 none (.error .stopped)

theorem isOrdinary_stopped : stopped.IsOrdinary :=
  fun _ hraised => nomatch hraised

theorem within_stopped {uris : String → Prop} {failures : Failure → Prop} :
    stopped.Within uris failures :=
  ⟨fun _ hsome => (nomatch hsome), fun _ hraised => (nomatch hraised)⟩

section Outdated

variable [Editor] {uris : String → Prop} {failures : Failure → Prop} {uri path : String}
  {h : History}

/-- The interpreter goes away. -/
def unnamed : Move :=
  .event (.named none .absent)

/-- A run that takes too long is reported. -/
theorem view_move_stopped {task : Task} (hgoing : h.going[0]? = some task)
    (htask : task.uri = uri) (hon : h.session.hasInterpreter = true) :
    (h.move stopped).session.view uri = ⟨some [], some [overdue], some [overdue]⟩ := by
  simp only [stopped, History.move, hgoing, htask]
  rw [view_conclude (fun hoff => by simp [hon] at hoff), view_settle]
  · rfl
  · intro _ hraised
    cases hraised
  · intro _ hsome
    cases hsome

/-- The error of a document that is not open under its URI is not withdrawn with the interpreter. -/
theorem view_move_unnamed {blocks : Option (List Block)} {diagnostics : Option (List Diagnostic)}
    (hview : h.session.view uri = ⟨blocks, diagnostics, some [overdue]⟩)
    (hnone : h.session.document? uri = none) :
    (h.move unnamed).session.view uri = ⟨none, none, some [overdue]⟩ := by
  obtain ⟨-, -, hshown⟩ := View.mk.inj hview
  refine (view_changeInterpreter_off none rfl uri h.session).trans ?_
  rw [if_pos hnone, hshown]

theorem view_move_start (h : History) (uri : String) :
    (h.move .start).session.view uri = h.session.view uri := by
  rcases h.move_start_cases with hstart | ⟨task, queue, -, hstart⟩
  · rw [hstart]
  · rw [hstart]
    rfl

/-- A change of a document shows nothing new as long as there is an interpreter. -/
theorem view_move_changed (hon : h.session.hasInterpreter = true) (text : String) :
    (h.move (.event (.changed uri text))).session.view uri = h.session.view uri := by
  simp only [History.move, Event.act, changeDocument]
  rcases view_replaceText_documentChanged "onDidChangeContent" uri text uri h.session with
    hkept | ⟨-, hoff, -⟩
  · exact hkept
  · exact absurd (hon.symm.trans hoff) Bool.noConfusion

/-- A document that is opened shows nothing new for the others. -/
theorem view_move_opened {other : String} (hne : other ≠ uri) (text : String) :
    (h.move (.event (.opened other text))).session.view uri = h.session.view uri := by
  simp only [History.move, Event.act, openDocument]
  rcases view_replaceText_documentChanged "onDidOpen" other text uri h.session with
    hkept | ⟨heq, -⟩
  · exact hkept
  · exact absurd heq hne

/-- If the refresh fails beyond handling, the end of a run is kept, but not shown. -/
theorem view_move_refused {blocks : Option (List Block)} {diagnostics : Option (List Diagnostic)}
    (hview : h.session.view uri = ⟨blocks, diagnostics, some [overdue]⟩) {failure : Failure}
    (hfailure : failure.isOrdinary = false) {task : Task} (hgoing : h.going[0]? = some task)
    (htask : task.uri = uri) (hon : h.session.hasInterpreter = true) :
    (h.move (.finish 0 (some failure) (.ok []))).session.view uri =
      ⟨some [], some [], some [overdue]⟩ := by
  obtain ⟨-, -, hshown⟩ := View.mk.inj hview
  simp only [History.move, hgoing, htask]
  rw [view_conclude (fun hoff => by simp [hon] at hoff)]
  let stored := (h.session.store uri [] []).addLog .info
    ("Cache updated for " ++ uri ++ " with " ++ Text.natText 0 ++ " blocks (total time: 0ms)")
  have hrefused : (refresh (some failure) stored).1 = .error failure := by
    simp only [refresh, Act.modify_bind_apply, hfailure]
    rfl
  simp only [settle, Act.modify_bind_apply, note_bind_apply, List.length_nil]
  rw [Act.bind_apply, Act.bind_error _ (Prod.ext hrefused rfl), ← hshown]
  exact (view_refresh (some failure) uri stored).trans (view_store_self uri [] [] h.session)

/-- A document is open, and nothing is run. -/
def IsIdle (uri : String) (h : History) : Prop :=
  h.session.document? (Editor.key uri) ≠ none ∧ h.session.queue = [] ∧ h.going = []

theorem IsIdle.not_showsKept (hidle : IsIdle uri h) (hpath : Uri.filePath uri = .ok path)
    (hsource : isSourcePath path = true) (hview : ¬ (h.session.view uri).IsConsistent) :
    ¬ h.ShowsKept uri := by
  obtain ⟨hopen, hqueue, hgoing⟩ := hidle
  have hnone : h.underway uri = [] := by simp [underway, queued, goingOf, hqueue, hgoing]
  exact fun hshows => hview (hshows ⟨path, hpath, hsource⟩ hopen hnone)

theorem SameState.isIdle {k : History} (hsame : SameState h k) (hidle : IsIdle uri k) :
    IsIdle uri h := by
  rw [IsIdle, hsame.document?, hsame.queue, hsame.going]
  exact hidle

/-- A server with an interpreter that is given a source and runs it. -/
def busy (uri : String) : History :=
  (fresh (.text "python") (.text "native")).run [.event (.opened uri ""), .start]

/-- The run of the source that is given. -/
def onlyTask (uri path : String) : Task :=
  { uri, invocation :=
      { text := "", scriptPath := path, interpreter := .text "python", stage := "native" } }

/-- The state in which the source that is given is run, and nothing else. -/
def onlyGoing (uri path : String) : History :=
  { session :=
      { interpreter := .text "python", documents := [{ uri := Editor.key uri, text := "" }],
        running := ({} : Table Bool).set uri true }
    going := [onlyTask uri path] }

theorem move_core_congr {k : History} (hcore : h.core = k.core) {m : Move} (hm : m.IsOrdinary) :
    (h.move m).core = (k.next m).core :=
  (move_core h hm).trans (next_congr hcore m)

theorem busy_core (hpath : Uri.filePath uri = .ok path) (hsource : isSourcePath path = true) :
    (busy uri).core = (onlyGoing uri path).core := by
  have hall : ∀ m ∈ [Move.event (.opened uri ""), .start], m.IsOrdinary := by
    simp [Move.IsOrdinary]
  have hcore : (busy uri).core = _ := run_core rfl hall
  rw [List.foldl_cons, next_opened_fresh hpath hsource rfl, List.foldl_cons] at hcore
  exact hcore

theorem isWithin_busy (huri : uris uri) : (busy uri).IsWithin uris failures := by
  refine ⟨.text "python", .text "native", [.event (.opened uri ""), .start], ?_, rfl⟩
  simp [Move.Within, Event.Over, huri]

theorem History.IsWithin.move (hh : h.IsWithin uris failures) {m : Move}
    (hm : m.Within uris failures) : (h.move m).IsWithin uris failures := by
  obtain ⟨interpreter, stage, moves, hmoves, rfl⟩ := hh
  refine ⟨interpreter, stage, moves ++ [m], ?_, by simp [run, List.foldl_append]⟩
  simpa [or_imp, forall_and, hm] using hmoves

/-- **A source that is known by another URI shows an outdated error** when the interpreter goes away
after a run that failed. -/
theorem exists_outdated_of_key_ne (huri : uris uri) (hpath : Uri.filePath uri = .ok path)
    (hsource : isSourcePath path = true) (hkey : Editor.key uri ≠ uri) :
    ∃ h : History, h.IsWithin uris failures ∧ ¬ h.ShowsKept uri := by
  let failed := (busy uri).move stopped
  have hbusy : SameState (busy uri) _ := .of_core (busy_core hpath hsource)
  have hfailed := move_core_congr (busy_core hpath hsource) isOrdinary_stopped
  have hend := move_core_congr (m := unnamed) hfailed trivial
  have herror : failed.session.view uri = ⟨some [], some [overdue], some [overdue]⟩ :=
    view_move_stopped (congrArg (·[0]?) hbusy.going) rfl hbusy.hasInterpreter
  -- The source is open, but not under the URI itself.
  have hnone : failed.session.document? uri = none := by
    rw [(SameState.of_core hfailed).document?]
    simp [stopped, onlyGoing, History.next, Session.document?, hkey]
  have hidle : IsIdle uri (failed.move unnamed) := by
    refine (SameState.of_core hend).isIdle ?_
    simp [IsIdle, stopped, unnamed, onlyGoing, onlyTask, History.next, Event.next, Session.named,
      Datum.isOn, Session.document?, concluded, finished, isPending, store, release]
  have hwithin : failed.IsWithin uris failures := (isWithin_busy huri).move within_stopped
  refine ⟨_, hwithin.move (m := unnamed) trivial, hidle.not_showsKept hpath hsource ?_⟩
  rw [view_move_unnamed herror hnone]
  exact List.cons_ne_nil _ _

/-- **A source shows an outdated error** when a document that is no source is opened and known by
its URI: it failed after it was closed, and the interpreter went away. -/
theorem exists_outdated_of_key_eq {other place : String} (huri : uris uri)
    (hother : uris other) (hplace : Uri.filePath other = .ok place)
    (hno : isSourcePath place = false) (hpath : Uri.filePath uri = .ok path)
    (hsource : isSourcePath path = true) (hkey : Editor.key uri = uri)
    (hsame : Editor.key other = uri) :
    ∃ h : History, h.IsWithin uris failures ∧ ¬ h.ShowsKept uri := by
  have hne : other ≠ uri := by
    rintro rfl
    obtain rfl := Except.ok.inj (hplace.symm.trans hpath)
    exact absurd (hno.symm.trans hsource) Bool.false_ne_true
  let closed : Move := .event (.closed uri)
  let opened : Move := .event (.opened other "")
  let failed := ((busy uri).move closed).move stopped
  have hclosed := move_core_congr (m := closed) (busy_core hpath hsource) trivial
  have hfailed := move_core_congr hclosed isOrdinary_stopped
  have hunnamed := move_core_congr (m := unnamed) hfailed trivial
  have hend := move_core_congr (m := opened) hunnamed trivial
  have herror : failed.session.view uri = ⟨some [], some [overdue], some [overdue]⟩ :=
    view_move_stopped (congrArg (·[0]?) (SameState.of_core hclosed).going) rfl
      (SameState.of_core hclosed).hasInterpreter
  have hnone : failed.session.document? uri = none := by
    rw [(SameState.of_core hfailed).document?]
    simp [closed, stopped, onlyGoing, History.next, Event.next, Session.closed, dropDocument,
      Session.document?, hkey]
  have hview : ((failed.move unnamed).move opened).session.view uri =
      ⟨none, none, some [overdue]⟩ := by
    rw [view_move_opened hne, view_move_unnamed herror hnone]
  have hidle : IsIdle uri ((failed.move unnamed).move opened) := by
    refine (SameState.of_core hend).isIdle ?_
    simp [IsIdle, closed, stopped, unnamed, opened, onlyGoing, onlyTask, History.next, Event.next,
      Session.named, Datum.isOn, Session.closed, dropDocument, replaced_of_not_source hplace hno,
      enterDocument, Session.document?, concluded, finished, isPending, store, release, hkey, hsame]
  have hwithin : (failed.move unnamed).IsWithin uris failures :=
    (((isWithin_busy huri).move (m := closed) huri).move within_stopped).move (m := unnamed) trivial
  refine ⟨_, hwithin.move (m := opened) hother, hidle.not_showsKept hpath hsource ?_⟩
  rw [hview]
  exact List.cons_ne_nil _ _

/-- **A source shows an outdated error** when the refresh at the end of a run fails in a way that
may not be handled. -/
theorem exists_outdated_of_not_mayBeHandled {failure : Failure} (hfailures : failures failure)
    (hfailure : failure.isOrdinary = false) (huri : uris uri) (hpath : Uri.filePath uri = .ok path)
    (hsource : isSourcePath path = true) :
    ∃ h : History, h.IsWithin uris failures ∧ ¬ h.ShowsKept uri := by
  let changed : Move := .event (.changed uri "")
  let refused : Move := .finish 0 (some failure) (.ok [])
  let failed := (busy uri).move stopped
  let again := (failed.move changed).move .start
  have hbusy : SameState (busy uri) _ := .of_core (busy_core hpath hsource)
  have hfailed := move_core_congr (busy_core hpath hsource) isOrdinary_stopped
  have hchanged := move_core_congr (m := changed) hfailed trivial
  have hagain := move_core_congr (m := .start) hchanged trivial
  have hend := move_core_congr (m := refused) hagain fun _ hraised => nomatch hraised
  have herror : failed.session.view uri = ⟨some [], some [overdue], some [overdue]⟩ :=
    view_move_stopped (congrArg (·[0]?) hbusy.going) rfl hbusy.hasInterpreter
  -- The source is run again, and shows the error as long as that takes.
  have hshown : again.session.view uri = ⟨some [], some [overdue], some [overdue]⟩ := by
    have hon : failed.session.hasInterpreter = true := (SameState.of_core hfailed).hasInterpreter
    rw [view_move_start, view_move_changed hon, herror]
  have hsame : SameState again (onlyGoing uri path) := by
    refine (SameState.of_core hagain).trans ⟨?_, ?_, ?_, ?_⟩
    all_goals
      simp [changed, stopped, onlyGoing, onlyTask, History.next, Event.next, takeTask?, enqueued,
        replaced_of_source hpath hsource, enterDocument, submitted, Session.hasInterpreter,
        Datum.isOn, isRunning, concluded, finished, isPending, store, release, Session.invocation,
        Datum.shown]
  have hview : (again.move refused).session.view uri = ⟨some [], some [], some [overdue]⟩ :=
    view_move_refused hshown hfailure (congrArg (·[0]?) hsame.going) rfl hsame.hasInterpreter
  have hidle : IsIdle uri (again.move refused) := by
    refine (SameState.of_core hend).isIdle ?_
    simp [IsIdle, changed, stopped, refused, onlyGoing, onlyTask, History.next, Event.next,
      takeTask?, enqueued, replaced_of_source hpath hsource, enterDocument, submitted,
      Session.hasInterpreter, Datum.isOn, isRunning, concluded, finished, isPending, store,
      release, Session.document?]
  have hwithin : again.IsWithin uris failures :=
    (((isWithin_busy huri).move within_stopped).move (m := changed) huri).move trivial
  refine ⟨_, hwithin.move (m := refused) ⟨?_, fun _ hraised => nomatch hraised⟩,
    hidle.not_showsKept hpath hsource ?_⟩
  · rintro _ ⟨⟩
    exact hfailures
  · rw [hview]
    exact List.cons_ne_nil _ _

end Outdated

/-! ### When the editor shows what is kept -/

/-- **The editor shows what is kept exactly if no document but the source itself is known by the URI
of a source,** and whatever fails at the end of a run may be handled. -/
theorem showsKept_iff_knownApart [Editor] (uris : String → Prop) (failures : Failure → Prop) :
    (∀ h : History, h.IsWithin uris failures → ∀ uri, uris uri → h.ShowsKept uri) ↔
      KnownApart uris ∧
        ((∃ uri, uris uri ∧ IsSource uri) →
          ∀ failure, failures failure → MayBeHandled failure) := by
  constructor
  · intro hshows
    have hnever : ∀ uri, uris uri →
        ¬ ∃ h : History, h.IsWithin uris failures ∧ ¬ h.ShowsKept uri := by
      rintro uri huri ⟨h, hh, houtdated⟩
      exact houtdated (hshows h hh uri huri)
    have hkey : ∀ uri, uris uri → IsSource uri → Editor.key uri = uri := by
      rintro uri huri ⟨path, hpath, hsource⟩
      by_cases heq : Editor.key uri = uri
      · exact heq
      · exact absurd (exists_outdated_of_key_ne huri hpath hsource heq) (hnever uri huri)
    refine ⟨key_eq_iff_of_keys hkey ?_, ?_⟩
    · rintro uri other place huri ⟨path, hpath, hsource⟩ hother hplace hno hsame
      exact hnever uri huri (exists_outdated_of_key_eq huri hother hplace hno hpath hsource
        (hkey uri huri ⟨path, hpath, hsource⟩) hsame)
    · rintro ⟨uri, huri, path, hpath, hsource⟩ failure hfailure
      cases hordinary : failure.isOrdinary with
      | true => exact hordinary
      | false =>
          refine absurd ?_ (hnever uri huri)
          exact exists_outdated_of_not_mayBeHandled hfailure hordinary huri hpath hsource
  · rintro ⟨hknown, hfailures⟩ h ⟨interpreter, stage, moves, hmoves, rfl⟩ uri huri hsource
    have hhandled := hfailures ⟨uri, huri, hsource⟩
    have hwithin : ((fresh interpreter stage).run moves).IsWithin uris MayBeHandled :=
      ⟨interpreter, stage, moves, fun m hm => (hmoves m hm).mono (fun _ => id) hhandled, rfl⟩
    exact hwithin.showsKept hknown huri hsource

section Decoding

attribute [local instance] Editor.decoding

/-- A source with a plain URI is known apart, and shows what is kept. -/
theorem showsKept_plainUri :
    KnownApart (· = plainUri) ∧
      ∀ h : History, h.IsWithin (· = plainUri) MayBeHandled → h.ShowsKept plainUri := by
  have hkey : Editor.key plainUri = plainUri := by decide +kernel
  have hknown : KnownApart (· = plainUri) := by
    rintro uri other rfl - rfl -
    exact iff_of_true hkey rfl
  have hshows := (showsKept_iff_knownApart (· = plainUri) MayBeHandled).2
    ⟨hknown, fun _ failure hfailure => hfailure⟩
  exact ⟨hknown, fun h hh => hshows h hh plainUri rfl⟩

/-- A source whose URI has an escaped space shows an outdated error, though nothing fails but the
run itself. -/
theorem exists_outdated_escapedUri :
    ∃ h : History, h.IsWithin (· = escapedUri) (fun _ => False) ∧ ¬ h.ShowsKept escapedUri := by
  have hpath : Uri.filePath escapedUri = .ok "/work/my b.py" := by rfl
  have hkey : Editor.key escapedUri ≠ escapedUri := by decide +kernel
  exact exists_outdated_of_key_ne rfl hpath (by decide +kernel) hkey

end Decoding

end JitExplorer.Session
