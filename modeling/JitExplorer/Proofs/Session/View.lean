/-
**What is kept and shown for a document.**

The editor sees two things of a document: the hints, which are made of the blocks that the server
keeps, and the diagnostics that were published last.  The view of a document holds both, and the
diagnostics that the server keeps.  It depends on what the editor was told, which the core of a
session leaves out, so the acts of the server are looked at once more here: most of them leave every
view as it is, and the others are named.

Main definitions:

* `Session.View`, `Session.view` — what is kept and shown for a document;
* `Session.RunsAgain` — a document is run again when its run ends;
* `Session.Event.Redraws` — what an event can do to a view.

Main results:

* `Session.Event.redraws` — **no event does anything else to a view**;
* `Session.view_conclude_of_ne`, `Session.view_conclude_skipped`, `Session.view_conclude` — what the
  end of a run does to views.
-/

import JitExplorer.Proofs.Session.LatestText

set_option autoImplicit false

namespace JitExplorer.Session

/-! ### Views -/

/-- What is kept and shown for a document: the blocks and diagnostics that the server keeps, and the
diagnostics that were published last. -/
structure View where
  blocks : Option (List Block)
  diagnostics : Option (List Diagnostic)
  shown : Option (List Diagnostic)
  deriving DecidableEq, Repr

namespace View

/-- Nothing is kept, and no diagnostics are shown any more. -/
def cleared : View := ⟨none, none, some []⟩

/-- What is kept and shown for a document that was not run for want of an interpreter. -/
def skipped : View := ⟨some [], some [], some []⟩

end View

/-- The diagnostics that are shown for a document after the editor was told something. -/
def Notice.shown? (uri : String) (before : Option (List Diagnostic)) :
    Notice → Option (List Diagnostic)
  | .diagnostics other published => if other = uri then some published else before
  | .refresh => before

/-- The diagnostics of a document that were published last. -/
def shown? (uri : String) (s : Session) : Option (List Diagnostic) :=
  s.sent.foldl (Notice.shown? uri) none

/-- What is kept and shown for a document. -/
def view (uri : String) (s : Session) : View where
  blocks := s.blocks.get? uri
  diagnostics := s.diagnostics.get? uri
  shown := s.shown? uri

/-! ### Single steps -/

section Steps

variable {uri other : String}

@[simp] theorem view_addLog (uri : String) (level : Log.Level) (message : String) (s : Session) :
    (s.addLog level message).view uri = s.view uri := rfl

theorem shown?_tell (uri : String) (notice : Notice) (s : Session) :
    (s.tell notice).shown? uri = notice.shown? uri (s.shown? uri) := by
  simp [shown?, tell, List.foldl_append]

theorem view_tell (uri : String) (notice : Notice) (s : Session) :
    (s.tell notice).view uri = { s.view uri with shown := notice.shown? uri (s.shown? uri) } := by
  rw [view, shown?_tell]
  rfl

/-- Publishing shows what is kept. -/
theorem view_publish_self (uri : String) (s : Session) :
    (s.publish uri).view uri =
      { s.view uri with shown := some ((s.diagnostics.get? uri).getD []) } := by
  rw [publish, view_tell, Notice.shown?, if_pos rfl]

theorem view_publish_of_ne (hne : other ≠ uri) (s : Session) :
    (s.publish other).view uri = s.view uri := by
  rw [publish, view_tell, Notice.shown?, if_neg hne]
  rfl

theorem view_store_self (uri : String) (blocks : List Block) (diagnostics : List Diagnostic)
    (s : Session) :
    (s.store uri blocks diagnostics).view uri = ⟨some blocks, some diagnostics, s.shown? uri⟩ := by
  rw [view, store_blocks_self, store_diagnostics_self]
  rfl

theorem view_store_of_ne (hne : other ≠ uri) (blocks : List Block)
    (diagnostics : List Diagnostic) (s : Session) :
    (s.store other blocks diagnostics).view uri = s.view uri := by
  simp only [view, store, Table.get?_set_of_ne _ _ hne]
  rfl

/-- What is stored and then published is kept and shown. -/
theorem view_publish_store_self (uri : String) (blocks : List Block)
    (diagnostics : List Diagnostic) (s : Session) :
    ((s.store uri blocks diagnostics).publish uri).view uri =
      ⟨some blocks, some diagnostics, some diagnostics⟩ := by
  rw [view_publish_self, view_store_self, store_diagnostics_self]
  rfl

theorem view_publish_store_of_ne (hne : other ≠ uri) (blocks : List Block)
    (diagnostics : List Diagnostic) (s : Session) :
    ((s.store other blocks diagnostics).publish other).view uri = s.view uri := by
  rw [view_publish_of_ne hne, view_store_of_ne hne]

end Steps

/-! ### Asking for a run -/

section Submit

variable {text path uri other : String} {s : Session}

/-- With an interpreter, asking for a run shows nothing new. -/
theorem view_submit_of_interpreter (hon : s.hasInterpreter = true) (uri : String) :
    (submit text path other s).2.view uri = s.view uri := by
  simp only [submit, Act.look_bind_apply, id_eq, hon, if_true]
  split
  · rfl
  · rfl

/-- Without an interpreter, a document whose run is asked for is skipped. -/
theorem view_submit_self (hoff : s.hasInterpreter = false) :
    (submit text path uri s).2.view uri = .skipped := by
  simp only [submit, Act.look_bind_apply, id_eq, hoff, Bool.false_eq_true, if_false]
  exact view_publish_store_self uri [] [] _

theorem view_submit_of_ne (hne : other ≠ uri) :
    (submit text path other s).2.view uri = s.view uri := by
  cases hon : s.hasInterpreter with
  | true => exact view_submit_of_interpreter hon uri
  | false =>
      simp only [submit, Act.look_bind_apply, id_eq, hon, Bool.false_eq_true, if_false]
      exact view_publish_store_of_ne hne [] [] _

end Submit

/-! ### The end of a run -/

/-- A document is run again when its run ends: it is marked, and it is open and has a path. -/
structure RunsAgain (uri : String) (s : Session) : Prop where
  pending : s.isPending uri = true
  isOpen : ∃ text, s.latestText? uri = some text
  path : HasPath uri

/-- A session without what was kept for documents, logged and told. -/
def bare (s : Session) : Session :=
  { s.core with blocks := {}, diagnostics := {} }

theorem bare_congr {s t : Session} (h : s.core = t.core) : s.bare = t.bare :=
  congrArg (fun r : Session => { r with blocks := {}, diagnostics := {} }) h

theorem RunsAgain.of_bare {uri : String} {s t : Session} (h : RunsAgain uri t)
    (hbare : s.bare = t.bare) : RunsAgain uri s := by
  have hpending : s.bare.isPending uri = t.bare.isPending uri := congrArg (isPending uri) hbare
  have htext : s.bare.latestText? uri = t.bare.latestText? uri := congrArg (latestText? uri) hbare
  change s.isPending uri = t.isPending uri at hpending
  change s.latestText? uri = t.latestText? uri at htext
  refine ⟨?_, ?_, h.path⟩
  · rw [hpending]
    exact h.pending
  · rw [htext]
    exact h.isOpen

section Conclude

variable {uri other : String} {s : Session} {result : Except Invocation.Fault (List Block)}

theorem view_refresh (refusal : Option Failure) (uri : String) (s : Session) :
    (refresh refusal s).2.view uri = s.view uri := by
  have htell : (s.tell .refresh).view uri = s.view uri := view_tell uri .refresh s
  simp only [refresh, Act.modify_bind_apply]
  cases refusal with
  | none => exact htell
  | some failure =>
      by_cases hordinary : failure.isOrdinary = true
      · simp only [hordinary, if_true]
        exact htell
      · simp only [hordinary]
        exact htell

/-- Blocks are stored, and published unless the editor's refusal to refresh its hints is a failure
that nothing may handle. -/
theorem settle_ok_cases (other : String) (refusal : Option Failure) (blocks : List Block)
    (s : Session) :
    ∃ after, (∀ uri, after.view uri = (s.store other blocks []).view uri) ∧
      ((settle other refusal (.ok blocks) s).2 = after ∨
        (settle other refusal (.ok blocks) s).2 = after.publish other) := by
  let stored := (s.store other blocks []).addLog .info
    ("Cache updated for " ++ other ++ " with " ++ Text.natText blocks.length ++
      " blocks (total time: 0ms)")
  refine ⟨(refresh refusal stored).2, fun uri => view_refresh refusal uri stored, ?_⟩
  simp only [settle, Act.modify_bind_apply, note_bind_apply]
  rcases hrefresh : refresh refusal stored with ⟨failure | _, after⟩
  · rw [Act.bind_apply, Act.bind_error _ hrefresh]
    exact .inl rfl
  · rw [Act.bind_apply, Act.bind_ok _ hrefresh]
    exact .inr rfl

/-- What is kept and shown for a document whose run was settled. -/
theorem view_settle_self (uri : String) (refusal : Option Failure) (h : IsOrdinaryResult result)
    (s : Session) :
    ∃ shown, (settle uri refusal result s).2.view uri =
        ⟨some (resultBlocks result), some (resultDiagnostics result), shown⟩ ∧
      (shown = some (resultDiagnostics result) ∨
        shown = s.shown? uri ∧ resultDiagnostics result = []) := by
  match result with
  | .error .stopped => exact ⟨_, view_publish_store_self uri _ _ _, .inl rfl⟩
  | .error (.exited code errors) => exact ⟨_, view_publish_store_self uri _ _ _, .inl rfl⟩
  | .error (.raised failure) =>
      rw [settle, settleFailure_of_isOrdinary uri (h failure rfl)]
      exact ⟨_, view_publish_store_self uri _ _ _, .inl rfl⟩
  | .ok blocks =>
      obtain ⟨after, hafter, hsettle | hsettle⟩ := settle_ok_cases uri refusal blocks s
      · rw [hsettle, hafter, view_store_self]
        exact ⟨_, rfl, .inr ⟨rfl, rfl⟩⟩
      · have hview := (hafter uri).trans (view_store_self uri blocks [] s)
        obtain ⟨-, hdiagnostics, -⟩ := View.mk.inj hview
        rw [hsettle, view_publish_self, hview, hdiagnostics]
        exact ⟨some [], rfl, .inl rfl⟩

theorem view_settle_of_ne (hne : other ≠ uri) (refusal : Option Failure)
    (result : Except Invocation.Fault (List Block)) (s : Session) :
    (settle other refusal result s).2.view uri = s.view uri := by
  have hreport : ∀ message t, (report other message t).2.view uri = t.view uri :=
    fun message t => view_publish_store_of_ne hne [] [{ message }] t
  match result with
  | .error .stopped => exact hreport _ _
  | .error (.exited code errors) => exact hreport _ _
  | .error (.raised failure) =>
      rw [settle]
      cases hordinary : failure.isOrdinary with
      | true =>
          rw [settleFailure_of_isOrdinary other hordinary]
          exact hreport _ _
      | false => rw [settleFailure_of_not_isOrdinary other hordinary]
  | .ok blocks =>
      obtain ⟨after, hafter, hsettle | hsettle⟩ := settle_ok_cases other refusal blocks s
      · rw [hsettle, hafter, view_store_of_ne hne]
      · rw [hsettle, view_publish_of_ne hne, hafter, view_store_of_ne hne]

/-- A failure that nothing may handle settles nothing. -/
theorem settle_of_not_isOrdinary (uri : String) (refusal : Option Failure)
    (h : ¬ IsOrdinaryResult result) (s : Session) : (settle uri refusal result s).2 = s := by
  simp only [IsOrdinaryResult, Classical.not_forall] at h
  obtain ⟨failure, rfl, hordinary⟩ := h
  rw [settle, settleFailure_of_not_isOrdinary uri (by simpa using hordinary)]

/-! #### The document is released -/

theorem view_rerun_skipped (hopen : ∃ text, s.latestText? uri = some text) (hpath : HasPath uri)
    (hoff : s.hasInterpreter = false) : (rerun uri s).2.view uri = .skipped := by
  obtain ⟨text, htext⟩ := hopen
  obtain ⟨path, hpath⟩ := hpath
  simp only [rerun, Act.look_bind_apply, htext, note_bind_apply, hpath,
    Act.ofExcept_ok_bind_apply]
  exact view_submit_self hoff

/-- Running a document again leaves a view as it is, unless the document is skipped. -/
theorem view_rerun (h : other = uri → s.hasInterpreter = false →
    (∃ text, s.latestText? uri = some text) → ¬ HasPath uri) :
    (rerun other s).2.view uri = s.view uri := by
  simp only [rerun, Act.look_bind_apply]
  cases htext : s.latestText? other with
  | none => rfl
  | some text =>
      simp only [note_bind_apply]
      cases hpath : Uri.filePath other with
      | error failure => rfl
      | ok path =>
          simp only [Act.ofExcept_ok_bind_apply]
          by_cases heq : other = uri
          · subst heq
            refine (view_submit_of_interpreter ?_ other).trans (view_addLog other _ _ s)
            cases hon : s.hasInterpreter with
            | true => exact hon
            | false => exact absurd ⟨path, hpath⟩ (h rfl hon ⟨text, htext⟩)
          · exact (view_submit_of_ne heq).trans (view_addLog uri _ _ s)

/-- A document that is run again without an interpreter is skipped. -/
theorem view_finish_skipped (hagain : RunsAgain uri s) (hoff : s.hasInterpreter = false) :
    (finish uri s).2.view uri = .skipped := by
  simp only [finish, Act.look_bind_apply, Act.modify_bind_apply, hagain.pending, if_true]
  exact view_rerun_skipped hagain.isOpen hagain.path hoff

theorem view_finish (h : other = uri → s.hasInterpreter = false → ¬ RunsAgain uri s) :
    (finish other s).2.view uri = s.view uri := by
  simp only [finish, Act.look_bind_apply, Act.modify_bind_apply]
  split
  · rename_i hpending
    refine (view_rerun (s := s.release other) ?_).trans rfl
    rintro rfl hoff hopen hpath
    exact h rfl hoff ⟨hpending, hopen, hpath⟩
  · rfl

/-! #### All that follows the end of a process -/

/-- Settling a run changes what is kept, told and logged, and nothing else. -/
theorem settle_bare (uri : String) (refusal : Option Failure)
    (result : Except Invocation.Fault (List Block)) (s : Session) :
    (settle uri refusal result s).2.bare = s.bare := by
  by_cases h : IsOrdinaryResult result
  · exact (bare_congr (settle_core uri refusal h s)).trans rfl
  · rw [settle_of_not_isOrdinary uri refusal h]

/-- Whether a document is run again was decided before its run is settled. -/
theorem runsAgain_settle (uri : String) (refusal : Option Failure)
    (result : Except Invocation.Fault (List Block)) (s : Session) :
    RunsAgain uri (settle uri refusal result s).2 ↔ RunsAgain uri s := by
  have hbare := settle_bare uri refusal result s
  exact ⟨fun h => h.of_bare hbare.symm, fun h => h.of_bare hbare⟩

theorem hasInterpreter_settle (uri : String) (refusal : Option Failure)
    (result : Except Invocation.Fault (List Block)) (s : Session) :
    (settle uri refusal result s).2.hasInterpreter = s.hasInterpreter := by
  have hbare : (settle uri refusal result s).2.bare.hasInterpreter = s.bare.hasInterpreter :=
    congrArg hasInterpreter (settle_bare uri refusal result s)
  exact hbare

theorem view_conclude_of_ne (hne : other ≠ uri) (refusal : Option Failure)
    (result : Except Invocation.Fault (List Block)) (s : Session) :
    (conclude other refusal result s).2.view uri = s.view uri := by
  rw [conclude, Act.always_snd, view_finish fun heq => absurd heq hne, view_settle_of_ne hne]

/-- **A document that is run again without an interpreter is skipped,** whatever its run ended
with. -/
theorem view_conclude_skipped (hagain : RunsAgain uri s) (hoff : s.hasInterpreter = false)
    (refusal : Option Failure) (result : Except Invocation.Fault (List Block)) :
    (conclude uri refusal result s).2.view uri = .skipped := by
  rw [conclude, Act.always_snd]
  refine view_finish_skipped ((runsAgain_settle uri refusal result s).2 hagain) ?_
  rw [hasInterpreter_settle, hoff]

/-- **The end of a run is shown as it is settled,** unless the document is skipped. -/
theorem view_conclude (h : s.hasInterpreter = false → ¬ RunsAgain uri s)
    (refusal : Option Failure) (result : Except Invocation.Fault (List Block)) :
    (conclude uri refusal result s).2.view uri = (settle uri refusal result s).2.view uri := by
  rw [conclude, Act.always_snd]
  refine view_finish fun _ hoff hagain => ?_
  rw [hasInterpreter_settle] at hoff
  exact h hoff ((runsAgain_settle uri refusal result s).1 hagain)

/-- What a run ends with is kept, or the document is skipped: something is kept for it. -/
theorem view_conclude_ne_cleared (uri : String) (refusal : Option Failure)
    (hordinary : IsOrdinaryResult result) (s : Session) :
    (conclude uri refusal result s).2.view uri ≠ .cleared := by
  by_cases hskipped : s.hasInterpreter = false ∧ RunsAgain uri s
  · rw [view_conclude_skipped hskipped.2 hskipped.1]
    simp [View.skipped, View.cleared]
  · obtain ⟨shown, hsettle, -⟩ := view_settle_self uri refusal hordinary s
    rw [view_conclude (fun hoff hagain => hskipped ⟨hoff, hagain⟩), hsettle]
    simp [View.cleared]

/-- What the end of a run keeps, apart from what is kept, told and logged: it suffices that asking
for runs keeps it, and the release of the document. -/
theorem conclude_keeps {P : Session → Prop} (hbare : ∀ s t : Session, s.bare = t.bare → P t → P s)
    (hsubmitted : ∀ text path s, P s → P (s.submitted text path uri))
    (hrelease : ∀ s, P s → P (s.release uri)) (refusal : Option Failure)
    (result : Except Invocation.Fault (List Block)) (hs : P s) :
    P (conclude uri refusal result s).2 := by
  rw [conclude, Act.always_snd]
  refine hbare _ _ (bare_congr (finish_core uri _)) ?_
  have hreleased := hrelease _ (hbare _ _ (settle_bare uri refusal result s) hs)
  unfold finished
  split
  · exact reran_keeps hsubmitted hreleased
  · exact hreleased

theorem conclude_documents (uri : String) (refusal : Option Failure)
    (result : Except Invocation.Fault (List Block)) (s : Session) :
    (conclude uri refusal result s).2.documents = s.documents := by
  refine conclude_keeps (P := fun t => t.documents = s.documents) (fun t r hbare hr => ?_)
    (fun text path t ht => (submitted_documents text path uri t).trans ht) (fun _ ht => ht)
    refusal result rfl
  have hdocuments : t.bare.documents = r.bare.documents := congrArg documents hbare
  exact hdocuments.trans hr

theorem conclude_interpreter (uri : String) (refusal : Option Failure)
    (result : Except Invocation.Fault (List Block)) (s : Session) :
    (conclude uri refusal result s).2.interpreter = s.interpreter := by
  refine conclude_keeps (P := fun t => t.interpreter = s.interpreter) (fun t r hbare hr => ?_)
    (fun text path t ht => (submitted_interpreter text path uri t).trans ht) (fun _ ht => ht)
    refusal result rfl
  have hinterpreter : t.bare.interpreter = r.bare.interpreter := congrArg interpreter hbare
  exact hinterpreter.trans hr

end Conclude

/-! ### What the editor does -/

section Events

variable {uri other : String} {s : Session}

/-- A source that changed in some way is skipped, if its text is read and there is no interpreter.
-/
theorem view_documentChanged_skipped [Editor] (event : String) {reading : Except Failure String}
    (hsource : IsSource uri) (hoff : s.hasInterpreter = false)
    (hread : s.readText? reading uri ≠ none) :
    (documentChanged event reading uri s).2.view uri = .skipped := by
  obtain ⟨path, hpath, hpy⟩ := hsource
  obtain ⟨text, htext⟩ := Option.ne_none_iff_exists'.1 hread
  let noted := s.addLog .debug ("[Event: " ++ event ++ "] Running explorer: " ++ uri)
  have hfound := documentText_of_readText (s := noted) ⟨path, hpath⟩ htext
  simp only [documentChanged, hpath, Act.ofExcept_ok_bind_apply, hpy, if_true, note_bind_apply]
  rw [Act.bind_apply, Act.bind_ok _ hfound]
  exact view_submit_self (s := noted) hoff

/-- Views are left as they are otherwise. -/
theorem view_documentChanged [Editor] (event : String) (reading : Except Failure String)
    (other uri : String) (s : Session) :
    (documentChanged event reading other s).2.view uri = s.view uri ∨
      other = uri ∧ IsSource uri ∧ s.hasInterpreter = false ∧ s.readText? reading uri ≠ none := by
  simp only [documentChanged]
  cases hpath : Uri.filePath other with
  | error failure => exact .inl rfl
  | ok path =>
      simp only [Act.ofExcept_ok_bind_apply]
      split
      · rename_i hsource
        simp only [note_bind_apply]
        let noted := s.addLog .debug ("[Event: " ++ event ++ "] Running explorer: " ++ other)
        cases hread : s.readText? reading other with
        | none =>
            obtain ⟨failure, hfailure⟩ :=
              documentText_of_not_readText (s := noted) ⟨path, hpath⟩ hread
            rw [Act.bind_apply, Act.bind_error _ hfailure]
            exact .inl rfl
        | some text =>
            have htext := documentText_of_readText (s := noted) ⟨path, hpath⟩ hread
            rw [Act.bind_apply, Act.bind_ok _ htext]
            by_cases heq : other = uri
            · subst heq
              cases hon : s.hasInterpreter with
              | true => exact .inl (view_submit_of_interpreter (s := noted) hon other)
              | false => exact .inr ⟨rfl, ⟨path, hpath, hsource⟩, rfl, by simp [hread]⟩
            · exact .inl (view_submit_of_ne (s := noted) heq)
      · exact .inl rfl

/-- What a text that is given for a document does to a view. -/
theorem view_replaceText_documentChanged [Editor] (event other text uri : String) (s : Session) :
    ((replaceText other text >>= fun _ => documentChanged event (.ok text) other) s).2.view uri =
        s.view uri ∨
      other = uri ∧ s.hasInterpreter = false ∧
        ((replaceText other text >>= fun _ => documentChanged event (.ok text) other) s).2.view uri =
          .skipped := by
  simp only [replaceText, Act.bind_apply, Act.bind, Act.look_apply]
  cases Editor.put other text s.documents with
  | error failure => exact .inl rfl
  | ok documents =>
      let put : Session := { s with documents }
      rcases view_documentChanged event (.ok text) other uri put with
        hkept | ⟨heq, hsource, hoff, hread⟩
      · exact .inl hkept
      · subst heq
        exact .inr ⟨rfl, hoff, view_documentChanged_skipped event hsource hoff hread⟩

/-- A document is closed, and the editor is told. -/
theorem closeDocument_snd [Editor] (uri : String) (s : Session) :
    (closeDocument uri s).2 = (s.closed uri).tell (.diagnostics uri []) := by
  have hremoved := Editor.remove_eq uri s.documents
  exact congrArg
    (fun documents => (dropDocument uri { s with documents }).tell (.diagnostics uri [])) hremoved

theorem view_closeDocument_self [Editor] (uri : String) (s : Session) :
    (closeDocument uri s).2.view uri = .cleared := by
  rw [closeDocument_snd, view_tell, Notice.shown?, if_pos rfl]
  simp [view, closed, dropDocument, View.cleared]

theorem view_closeDocument_of_ne [Editor] (hne : other ≠ uri) (s : Session) :
    (closeDocument other s).2.view uri = s.view uri := by
  rw [closeDocument_snd, view_tell, Notice.shown?, if_neg hne]
  simp only [view, closed, dropDocument, Table.get?_erase_of_ne _ hne]
  rfl

theorem hasInterpreter_submit (text path uri : String) (s : Session) :
    (submit text path uri s).2.hasInterpreter = s.hasInterpreter := by
  have hcore : (submit text path uri s).2.core.interpreter =
      (s.submitted text path uri).core.interpreter :=
    congrArg interpreter (submit_core text path uri s)
  exact congrArg Datum.isOn (hcore.trans (submitted_interpreter text path uri s))

/-- With an interpreter, running all sources shows nothing new. -/
theorem view_submitAll (documents : List Document) (hon : s.hasInterpreter = true)
    (uri : String) : (submitAll documents s).2.view uri = s.view uri := by
  induction documents generalizing s with
  | nil => rfl
  | cons document documents ih =>
      simp only [submitAll]
      cases Uri.filePath document.uri with
      | error failure => rfl
      | ok path =>
          simp only [Act.ofExcept_ok_bind_apply]
          by_cases hsource : isSourcePath path = true
          · simp only [hsource, if_true]
            rw [Act.bind_apply, Act.bind_ok _ (submit_ok document.text path document.uri s)]
            rw [ih ((hasInterpreter_submit _ _ _ s).trans hon), view_submit_of_interpreter hon]
          · simp only [hsource]
            exact ih hon

/-- Empty diagnostics are shown for a document if it is among those that the editor is told of. -/
theorem view_foldl_tell (uri : String) (documents : List Document) (s : Session) :
    (documents.foldl (fun s document => s.tell (.diagnostics document.uri [])) s).view uri =
      { s.view uri with
        shown := if documents.find? (fun d => d.uri == uri) = none then s.shown? uri
          else some [] } := by
  induction documents generalizing s with
  | nil => rfl
  | cons document documents ih =>
      rw [List.foldl_cons, ih, view_tell, shown?_tell]
      by_cases heq : document.uri = uri
      · simp [Notice.shown?, heq]
      · simp [Notice.shown?, heq]

/-- Without an interpreter nothing is kept, and nothing is shown any more for open documents. -/
theorem view_clear (uri : String) (s : Session) :
    s.clear.view uri =
      ⟨none, none, if s.document? uri = none then s.shown? uri else some []⟩ :=
  view_foldl_tell uri s.documents { s with blocks := {}, diagnostics := {} }

/-- A session when the interpreter was named. -/
def renamed (interpreter : Datum) (s : Session) : Session :=
  ({ s with interpreter } : Session).addLog .info
    ("Python interpreter changed: " ++ s.interpreter.shown ++ " -> " ++ interpreter.shown)

theorem changeInterpreter_apply (refusal : Option Failure) (interpreter : Datum) (s : Session) :
    changeInterpreter refusal interpreter s =
      if interpreter.isOn then submitAll s.documents (s.renamed interpreter)
      else refresh refusal (s.renamed interpreter).clear := by
  have happly : changeInterpreter refusal interpreter s =
      (if (s.renamed interpreter).hasInterpreter then submitAll s.documents
        else Act.modify clear >>= fun _ => refresh refusal : Act Session Unit)
          (s.renamed interpreter) := rfl
  have hon : (s.renamed interpreter).hasInterpreter = interpreter.isOn := rfl
  rw [happly, hon]
  split
  · rfl
  · rfl

theorem view_changeInterpreter_on (refusal : Option Failure) {interpreter : Datum}
    (hon : interpreter.isOn = true) (uri : String) (s : Session) :
    (changeInterpreter refusal interpreter s).2.view uri = s.view uri := by
  rw [changeInterpreter_apply, if_pos hon]
  exact view_submitAll s.documents (s := s.renamed interpreter) hon uri

/-- **An interpreter that goes away takes with it what is kept,** and what is shown for documents
that are open under exactly their URI. -/
theorem view_changeInterpreter_off (refusal : Option Failure) {interpreter : Datum}
    (hoff : interpreter.isOn = false) (uri : String) (s : Session) :
    (changeInterpreter refusal interpreter s).2.view uri =
      ⟨none, none, if s.document? uri = none then s.shown? uri else some []⟩ := by
  rw [changeInterpreter_apply, if_neg (by simp [hoff]), view_refresh]
  exact view_clear uri (s.renamed interpreter)

/-! ### What an event can do to a view -/

/-- A text is given for the document with a key. -/
def Event.Gives [Editor] (key : String) : Event → Prop
  | .opened other _ => Editor.key other = key
  | .changed other _ => Editor.key other = key
  | .saved _ _ => False
  | .closed _ => False
  | .named _ _ => False

/-- A source is saved, and is read if it is not open. -/
def Event.Reads (uri : String) : Event → Prop
  | .saved other reading => other = uri ∧ IsSource uri ∧ reading.isOk = true
  | _ => False

/-- What an event can do to what is kept and shown for a document. -/
inductive Event.Redraws [Editor] (uri : String) (s : Session) : Event → View → Prop where
  /-- Nothing changes for the document. -/
  | kept (event : Event) : Redraws uri s event (s.view uri)
  /-- The document is not run for want of an interpreter. -/
  | skipped {event : Event} :
      s.hasInterpreter = false →
      event.Gives (Editor.key uri) ∨ s.document? (Editor.key uri) ≠ none ∨ event.Reads uri →
      Redraws uri s event .skipped
  /-- The document is closed. -/
  | cleared : Redraws uri s (.closed uri) .cleared
  /-- The interpreter goes away. -/
  | wiped {refusal : Option Failure} {interpreter : Datum} :
      interpreter.isOn = false →
      Redraws uri s (.named refusal interpreter)
        ⟨none, none, if s.document? uri = none then s.shown? uri else some []⟩

theorem Event.Redraws.of_eq [Editor] {event : Event} {v w : View} (h : event.Redraws uri s v)
    (heq : w = v) : event.Redraws uri s w :=
  heq ▸ h

/-- **No event does anything else to what is kept and shown for a document.** -/
theorem Event.redraws [Editor] (event : Event) (uri : String) (s : Session) :
    event.Redraws uri s ((event.act s).2.view uri) := by
  cases event with
  | opened other text =>
      rcases view_replaceText_documentChanged "onDidOpen" other text uri s with
        hkept | ⟨rfl, hoff, hskipped⟩
      · exact (Redraws.kept _).of_eq hkept
      · have hgives : (opened other text).Gives (Editor.key other) := rfl
        exact (Redraws.skipped hoff (.inl hgives)).of_eq hskipped
  | changed other text =>
      rcases view_replaceText_documentChanged "onDidChangeContent" other text uri s with
        hkept | ⟨rfl, hoff, hskipped⟩
      · exact (Redraws.kept _).of_eq hkept
      · have hgives : (changed other text).Gives (Editor.key other) := rfl
        exact (Redraws.skipped hoff (.inl hgives)).of_eq hskipped
  | saved other reading =>
      rcases view_documentChanged "onDidSave" reading other uri s with
        hkept | ⟨heq, hsource, hoff, hread⟩
      · exact (Redraws.kept _).of_eq hkept
      · subst heq
        have hskipped := view_documentChanged_skipped "onDidSave" hsource hoff hread
        refine (Redraws.skipped hoff (.inr ?_)).of_eq hskipped
        by_cases hopen : s.document? (Editor.key other) = none
        · rw [readText?_of_closed hopen] at hread
          cases reading with
          | ok text => exact .inr ⟨rfl, hsource, rfl⟩
          | error failure => exact absurd rfl hread
        · exact .inl hopen
  | closed other =>
      by_cases heq : other = uri
      · subst heq
        exact Redraws.cleared.of_eq (view_closeDocument_self other s)
      · exact (Redraws.kept _).of_eq (view_closeDocument_of_ne heq s)
  | named refusal interpreter =>
      cases hon : interpreter.isOn with
      | true => exact (Redraws.kept _).of_eq (view_changeInterpreter_on refusal hon uri s)
      | false => exact (Redraws.wiped hon).of_eq (view_changeInterpreter_off refusal hon uri s)

end Events

/-! ### Documents and interpreter -/

theorem Event.act_documents [Editor] (event : Event) (s : Session) :
    (event.act s).2.documents = (event.next s).documents := by
  have hcore : (event.act s).2.core.documents = (event.next s).core.documents :=
    congrArg documents (event.act_core s)
  exact hcore

/-- A document is not open unless a text is given for it. -/
theorem Event.document?_act [Editor] {event : Event} {key : String} {s : Session}
    (hgives : ¬ event.Gives key) (hnone : s.document? key = none) :
    (event.act s).2.document? key = none := by
  have hreplaced : ∀ other text, Editor.key other ≠ key →
      (s.replaced other text).document? key = none := by
    intro other text hne
    refine replaced_cases (P := fun t => t.document? key = none) hnone fun _ => ?_
    rw [document?, handled_documents, find?_enterDocument_other hne]
    exact hnone
  rw [document?, event.act_documents]
  cases event with
  | opened other text => exact hreplaced other text hgives
  | changed other text => exact hreplaced other text hgives
  | saved other reading =>
      rw [Event.next, handled_documents]
      exact hnone
  | closed other =>
      by_cases heq : Editor.key other = key
      · rw [← heq]
        exact find?_filter_self (Editor.key other) s.documents
      · exact (find?_filter_other heq s.documents).trans hnone
  | named refusal interpreter =>
      simp only [Event.next, Session.named]
      split
      · rw [spread_documents]
        exact hnone
      · exact hnone

/-- The interpreter that is configured after an event. -/
def Event.interpreter (event : Event) (s : Session) : Datum :=
  match event with
  | .named _ interpreter => interpreter
  | _ => s.interpreter

theorem Event.act_interpreter [Editor] (event : Event) (s : Session) :
    (event.act s).2.interpreter = event.interpreter s := by
  have hreplaced : ∀ other text, (s.replaced other text).interpreter = s.interpreter := by
    intro other text
    exact replaced_cases (P := fun t => t.interpreter = s.interpreter) rfl
      fun _ => handled_interpreter _ other _
  have hcore : (event.act s).2.core.interpreter = (event.next s).core.interpreter :=
    congrArg Session.interpreter (event.act_core s)
  refine (show (event.act s).2.interpreter = (event.next s).interpreter from hcore).trans ?_
  cases event with
  | opened other text => exact hreplaced other text
  | changed other text => exact hreplaced other text
  | saved other reading => exact handled_interpreter reading other s
  | closed other => rfl
  | named refusal interpreter =>
      simp only [Event.next, Session.named, Event.interpreter]
      split
      · exact spread_interpreter _ _
      · rfl

/-! ### The start of a run -/

/-- A run is taken from the queue and logged, if there is one. -/
theorem History.move_start_cases [Editor] (h : History) :
    h.move .start = h ∨
      ∃ task queue, h.session.queue = task :: queue ∧
        h.move .start =
          { h with
            session := (begin task { h.session with queue }).2
            going := h.going ++ [task] } := by
  cases hqueue : h.session.queue with
  | nil => exact .inl (by simp only [move, takeTask?, hqueue])
  | cons task queue => exact .inr ⟨task, queue, rfl, by simp only [move, takeTask?, hqueue]⟩

end JitExplorer.Session
