/-
**What the acts of the server do to its state.**

The acts of the server log, tell the editor, and change what the server knows.  This module takes
the first two out of sight: the core of a session is the session without what was logged and told,
and every act changes the core as a plain function on sessions does.

Main definitions:

* `Session.core` — a session without what was logged and told;
* `Session.submitted`, `Session.reran`, `Session.finished`, `Session.concluded` — what becomes of a
  session when a run is asked for, asked for again, and ends;
* `Session.replaced`, `Session.handled`, `Session.closed`, `Session.spread`, `Session.named` — what
  becomes of it when the editor does something.

Main results:

* `Session.submit_core`, `Session.conclude_core`, `Session.openDocument_core`,
  `Session.changeInterpreter_core` and so on — the acts do this and nothing else to the core.
-/

import JitExplorer.Session.Client

set_option autoImplicit false

namespace JitExplorer

namespace Session

/-! ### The core of a session -/

/-- A session without what was logged and told. -/
def core (s : Session) : Session :=
  { s with log := [], sent := [] }

@[simp] theorem note_bind_apply {β : Type} (level : Log.Level) (message : String)
    (next : Unit → Act Session β) (s : Session) :
    (note level message >>= next) s = next () (s.addLog level message) := rfl

/-! ### Asking for a run -/

/-- The run that is asked for now. -/
def invocation (s : Session) (text path : String) : Invocation where
  text := text
  scriptPath := path
  interpreter := s.interpreter
  stage := s.stage.shown

/-- A document that has a run under way is marked. -/
def marked (uri : String) (s : Session) : Session :=
  { s with pending := s.pending.set uri true }

/-- A run is put into the queue. -/
def enqueued (uri : String) (invocation : Invocation) (s : Session) : Session :=
  { s with running := s.running.set uri true, queue := s.queue ++ [{ uri, invocation }] }

/-- What becomes of a session when a run of a document is asked for. -/
def submitted (text path uri : String) (s : Session) : Session :=
  if s.hasInterpreter then
    if s.isRunning uri then s.marked uri else s.enqueued uri (s.invocation text path)
  else s.store uri [] []

/-- **What asking for a run can do:** the document is marked during its run, it is given one if it
has none, or nothing is kept for it. -/
theorem submitted_cases {P : Session → Prop} {text path uri : String} {s : Session}
    (hmarked : s.isRunning uri = true → P (s.marked uri))
    (henqueued : s.isRunning uri = false → P (s.enqueued uri (s.invocation text path)))
    (hstored : P (s.store uri [] [])) : P (s.submitted text path uri) := by
  unfold submitted
  split
  · split
    · rename_i hrunning
      exact hmarked hrunning
    · rename_i hrunning
      exact henqueued (by simpa using hrunning)
  · exact hstored

theorem submit_core (text path uri : String) (s : Session) :
    (submit text path uri s).2.core = (s.submitted text path uri).core := by
  simp only [submit, Act.look_bind_apply, submitted, id_eq]
  split
  · split <;> rfl
  · rfl

/-- Asking for a run does not fail. -/
theorem submit_ok (text path uri : String) (s : Session) :
    submit text path uri s = (.ok (), (submit text path uri s).2) := by
  simp only [submit, Act.look_bind_apply]
  split
  · split <;> rfl
  · rfl

/-! ### The outcome of a run -/

/-- What is shown for a fault. -/
def faultMessage : Invocation.Fault → String
  | .stopped => "numba-explorer timed out (" ++ Text.natText Invocation.timeout ++ "s)"
  | .exited code errors => exitMessage code errors
  | .raised (.explorer (.framing line detail)) =>
      "Failed to parse numba-explorer output: " ++ (ExplorerError.framing line detail).message
  | .raised failure => "Unexpected error: " ++ failure.text

/-- What is logged for a fault. -/
def faultRecord (uri : String) : Invocation.Fault → String
  | .stopped => "Explorer timed out for " ++ uri
  | .exited _ errors => "Explorer failed for " ++ uri ++ ": " ++ errorsText errors
  | .raised (.explorer (.framing line detail)) =>
      "Unreadable explorer output for " ++ uri ++ ": " ++
        (ExplorerError.framing line detail).message
  | .raised failure => "Unexpected error while exploring " ++ uri ++ ": " ++ failure.text

/-- The blocks that are kept of a result. -/
def resultBlocks : Except Invocation.Fault (List Block) → List Block
  | .ok blocks => blocks
  | .error _ => []

/-- The diagnostics that are kept of a result. -/
def resultDiagnostics : Except Invocation.Fault (List Block) → List Diagnostic
  | .ok _ => []
  | .error fault => [{ message := faultMessage fault }]

/-- A result that a program is expected to handle: blocks, or any ordinary failure. -/
def IsOrdinaryResult (result : Except Invocation.Fault (List Block)) : Prop :=
  ∀ failure, result = .error (.raised failure) → failure.isOrdinary = true

/-- An ordinary failure is logged and shown. -/
theorem settleFailure_of_isOrdinary (uri : String) {failure : Failure}
    (h : failure.isOrdinary = true) (s : Session) :
    settleFailure uri failure s =
      report uri (faultMessage (.raised failure))
        (s.addLog .error (faultRecord uri (.raised failure))) := by
  unfold settleFailure
  split
  · rfl
  · rename_i hframing
    have hmessage : faultMessage (.raised failure) = "Unexpected error: " ++ failure.text := by
      unfold faultMessage
      split <;> simp_all
    have hrecord : faultRecord uri (.raised failure) =
        "Unexpected error while exploring " ++ uri ++ ": " ++ failure.text := by
      unfold faultRecord
      split <;> simp_all
    simp only [h, if_true, hmessage, hrecord]
    rfl

/-- A failure that nothing may handle is handed on. -/
theorem settleFailure_of_not_isOrdinary (uri : String) {failure : Failure}
    (h : failure.isOrdinary = false) (s : Session) :
    settleFailure uri failure s = (.error failure, s) := by
  unfold settleFailure
  split
  · exact absurd h (by simp)
  · simp only [h]
    rfl

theorem settleFailure_core (uri : String) {failure : Failure} (h : failure.isOrdinary = true)
    (s : Session) :
    (settleFailure uri failure s).2.core =
      (s.store uri [] [{ message := faultMessage (.raised failure) }]).core := by
  rw [settleFailure_of_isOrdinary uri h]
  rfl

/-- What a run leaves behind in the core is its result. -/
theorem settle_core (uri : String) (refusal : Option Failure)
    {result : Except Invocation.Fault (List Block)} (h : IsOrdinaryResult result) (s : Session) :
    (settle uri refusal result s).2.core =
      (s.store uri (resultBlocks result) (resultDiagnostics result)).core := by
  match result with
  | .error .stopped => rfl
  | .error (.exited code errors) => rfl
  | .error (.raised failure) => exact settleFailure_core uri (h failure rfl) s
  | .ok blocks =>
      simp only [settle, Act.modify_bind_apply, note_bind_apply, refresh]
      cases refusal with
      | none => rfl
      | some failure =>
          by_cases hf : failure.isOrdinary = true
          · simp only [Act.bind_apply, Act.bind, Act.modify_apply, hf, if_true]
            rfl
          · simp only [Act.bind_apply, Act.bind, Act.modify_apply, hf]
            rfl

/-! ### The end of a run -/

/-- What becomes of a session when the latest text of a document is run. -/
def reran (uri : String) (s : Session) : Session :=
  match s.latestText? uri, Uri.filePath uri with
  | some text, .ok path => s.submitted text path uri
  | _, _ => s

/-- What becomes of a session when a document is released. -/
def finished (uri : String) (s : Session) : Session :=
  if s.isPending uri then (s.release uri).reran uri else s.release uri

/-- What becomes of a session when a run ends. -/
def concluded (uri : String) (result : Except Invocation.Fault (List Block)) (s : Session) :
    Session :=
  (s.store uri (resultBlocks result) (resultDiagnostics result)).finished uri

/-- What is asked for depends on the core alone. -/
theorem submitted_congr (text path uri : String) {s t : Session} (h : s.core = t.core) :
    (s.submitted text path uri).core = (t.submitted text path uri).core := by
  have hcore : ∀ r : Session, (r.core.submitted text path uri).core =
      (r.submitted text path uri).core := by
    intro r
    have hon : r.core.hasInterpreter = r.hasInterpreter := rfl
    have hrunning : r.core.isRunning uri = r.isRunning uri := rfl
    simp only [submitted, hon, hrunning]
    split
    · split <;> rfl
    · rfl
  rw [← hcore s, h, hcore t]

theorem rerun_core (uri : String) (s : Session) :
    (rerun uri s).2.core = (s.reran uri).core := by
  simp only [rerun, Act.look_bind_apply, reran]
  cases s.latestText? uri with
  | none => rfl
  | some text =>
      simp only [note_bind_apply]
      cases Uri.filePath uri with
      | error failure => rfl
      | ok path => exact (submit_core text path uri _).trans (submitted_congr text path uri rfl)

theorem finish_core (uri : String) (s : Session) :
    (finish uri s).2.core = (s.finished uri).core := by
  simp only [finish, Act.look_bind_apply, Act.modify_bind_apply, finished]
  split
  · exact rerun_core uri (s.release uri)
  · rfl

theorem finished_congr (uri : String) {s t : Session} (h : s.core = t.core) :
    (s.finished uri).core = (t.finished uri).core := by
  have hrelease : (s.release uri).core = (t.release uri).core := congrArg (release uri) h
  have hpending : s.core.isPending uri = t.core.isPending uri := congrArg (isPending uri) h
  have htext : (s.release uri).core.latestText? uri = (t.release uri).core.latestText? uri :=
    congrArg (latestText? uri) hrelease
  change s.isPending uri = t.isPending uri at hpending
  change (s.release uri).latestText? uri = (t.release uri).latestText? uri at htext
  simp only [finished, hpending, reran, htext]
  split
  · split
    · exact submitted_congr _ _ uri hrelease
    · exact hrelease
  · exact hrelease

theorem concluded_congr (uri : String) (result : Except Invocation.Fault (List Block))
    {s t : Session} (h : s.core = t.core) :
    (s.concluded uri result).core = (t.concluded uri result).core :=
  finished_congr uri (congrArg (store uri (resultBlocks result) (resultDiagnostics result)) h)

/-- **The end of a run in the core:** its result is kept, the document is released, and it is run
again if it was marked. -/
theorem conclude_core (uri : String) (refusal : Option Failure)
    {result : Except Invocation.Fault (List Block)} (h : IsOrdinaryResult result) (s : Session) :
    (conclude uri refusal result s).2.core = (s.concluded uri result).core := by
  rw [conclude, Act.always_snd, finish_core]
  exact finished_congr uri (settle_core uri refusal h s)

/-! ### What the editor does -/

section Events

variable [Editor]

/-- The text of a document as it is read now, if it is: that of an open one, and otherwise what the
reading of the document gives. -/
def readText? (reading : Except Failure String) (uri : String) (s : Session) : Option String :=
  match s.document? (Editor.key uri), reading with
  | some document, _ => some document.text
  | none, .ok text => some text
  | none, .error _ => none

theorem readText?_of_open {reading : Except Failure String} {uri : String} {s : Session}
    {document : Document} (h : s.document? (Editor.key uri) = some document) :
    s.readText? reading uri = some document.text := by
  simp only [readText?, h]

theorem readText?_of_closed {reading : Except Failure String} {uri : String} {s : Session}
    (h : s.document? (Editor.key uri) = none) : s.readText? reading uri = reading.toOption := by
  simp only [readText?, h]
  cases reading with
  | ok text => rfl
  | error failure => rfl

/-- A document that comes with a text is read in any case. -/
theorem readText?_ne_none {reading : Except Failure String} (h : reading.isOk = true) (uri : String)
    (s : Session) : s.readText? reading uri ≠ none := by
  cases hopen : s.document? (Editor.key uri) with
  | some document => simp [readText?_of_open hopen]
  | none =>
      rw [readText?_of_closed hopen]
      cases reading with
      | ok text => exact Option.some_ne_none text
      | error failure => exact absurd h Bool.false_ne_true

/-- What becomes of a session when a document changed in some way. -/
def handled (reading : Except Failure String) (uri : String) (s : Session) : Session :=
  match Uri.filePath uri with
  | .error _ => s
  | .ok path =>
      if isSourcePath path then
        match s.readText? reading uri with
        | some text => s.submitted text path uri
        | none => s
      else s

theorem handled_congr (reading : Except Failure String) (uri : String) {s t : Session}
    (h : s.core = t.core) : (s.handled reading uri).core = (t.handled reading uri).core := by
  have htext : s.core.readText? reading uri = t.core.readText? reading uri :=
    congrArg (readText? reading uri) h
  change s.readText? reading uri = t.readText? reading uri at htext
  simp only [handled, htext]
  split
  · exact h
  · split
    · split
      · exact submitted_congr _ _ uri h
      · exact h
    · exact h

/-- What becomes of a session when the text of a document is given. -/
def replaced (uri text : String) (s : Session) : Session :=
  match Editor.put uri text s.documents with
  | .error _ => s
  | .ok documents => handled (.ok text) uri { s with documents }

theorem replaced_congr (uri text : String) {s t : Session} (h : s.core = t.core) :
    (s.replaced uri text).core = (t.replaced uri text).core := by
  have hdocuments : s.core.documents = t.core.documents := congrArg documents h
  change s.documents = t.documents at hdocuments
  unfold replaced
  rw [hdocuments]
  split
  · exact h
  · rename_i documents _
    exact handled_congr (.ok text) uri (congrArg (fun r : Session => { r with documents }) h)

/-- What becomes of a session when a document is closed. -/
def closed (uri : String) (s : Session) : Session :=
  dropDocument uri { s with documents := s.documents.filter fun d => d.uri != Editor.key uri }

end Events

/-- What becomes of a session when all sources among some documents are run. -/
def spread : List Document → Session → Session
  | [], s => s
  | document :: documents, s =>
      match Uri.filePath document.uri with
      | .error _ => s
      | .ok path =>
          spread documents
            (if isSourcePath path then s.submitted document.text path document.uri else s)

/-- What becomes of a session when the interpreter is named. -/
def named (interpreter : Datum) (s : Session) : Session :=
  if interpreter.isOn then spread s.documents { s with interpreter }
  else { s with interpreter, blocks := {}, diagnostics := {} }

section Acts

variable [Editor] {reading : Except Failure String} {uri : String} {s : Session}

theorem findDocument_snd (uri : String) (s : Session) : (findDocument uri s).2 = s := rfl

/-- A document whose URI leads to a path is found. -/
theorem exists_findDocument_ok (hpath : HasPath uri) (s : Session) :
    ∃ document?, findDocument uri s = (.ok document?, s) := by
  cases hopen : s.document? (Editor.key uri) with
  | some document => exact ⟨_, Prod.ext (Editor.find_of_open uri s.documents document hopen) rfl⟩
  | none => exact ⟨_, Prod.ext (Editor.find_of_closed uri s.documents hopen hpath) rfl⟩

/-- A document that is not open is answered by its reading, if its URI leads to a path. -/
theorem documentText_of_closed (hpath : HasPath uri) (hclosed : s.document? (Editor.key uri) = none)
    (reading : Except Failure String) : documentText reading uri s = (reading, s) := by
  have hfound : findDocument uri s = (.ok none, s) :=
    Prod.ext (Editor.find_of_closed uri s.documents hclosed hpath) rfl
  rw [documentText, Act.bind_apply, Act.bind_ok _ hfound]
  rfl

/-- The text of a document whose URI leads to a path is read as it is now. -/
theorem documentText_of_readText {text : String} (hpath : HasPath uri)
    (h : s.readText? reading uri = some text) : documentText reading uri s = (.ok text, s) := by
  cases hopen : s.document? (Editor.key uri) with
  | some document =>
      rw [readText?_of_open hopen, Option.some.injEq] at h
      subst h
      have hfound : findDocument uri s = (.ok (some document), s) :=
        Prod.ext (Editor.find_of_open uri s.documents document hopen) rfl
      rw [documentText, Act.bind_apply, Act.bind_ok _ hfound]
      rfl
  | none =>
      rw [readText?_of_closed hopen] at h
      rw [documentText_of_closed hpath hopen]
      cases reading with
      | ok other => exact congrArg (fun text => (Except.ok text, s)) (Option.some.inj h)
      | error failure => cases h

/-- A document that is not open fails to be read with its reading. -/
theorem documentText_of_not_readText (hpath : HasPath uri) (h : s.readText? reading uri = none) :
    ∃ failure, documentText reading uri s = (.error failure, s) := by
  cases hopen : s.document? (Editor.key uri) with
  | some document =>
      rw [readText?_of_open hopen] at h
      cases h
  | none =>
      rw [readText?_of_closed hopen] at h
      rw [documentText_of_closed hpath hopen]
      cases reading with
      | ok text => cases h
      | error failure => exact ⟨failure, rfl⟩

theorem documentText_snd (reading : Except Failure String) (uri : String) (s : Session) :
    (documentText reading uri s).2 = s := by
  rw [documentText, Act.bind_apply]
  rcases hfound : findDocument uri s with ⟨_ | document, t⟩
  · rw [Act.bind_error _ hfound]
    exact (congrArg Prod.snd hfound).symm
  · rw [Act.bind_ok _ hfound]
    obtain rfl : s = t := congrArg Prod.snd hfound
    cases document with
    | some document => rfl
    | none => rfl

theorem documentChanged_core (event : String) (reading : Except Failure String) (uri : String)
    (s : Session) :
    (documentChanged event reading uri s).2.core = (s.handled reading uri).core := by
  simp only [documentChanged, handled]
  cases hpath : Uri.filePath uri with
  | error failure => rfl
  | ok path =>
      simp only [Act.ofExcept_ok_bind_apply]
      by_cases hsource : isSourcePath path = true
      · simp only [hsource, if_true, note_bind_apply]
        let noted := s.addLog .debug ("[Event: " ++ event ++ "] Running explorer: " ++ uri)
        cases hread : s.readText? reading uri with
        | some text =>
            rw [Act.bind_apply,
              Act.bind_ok _ (documentText_of_readText (s := noted) ⟨path, hpath⟩ hread)]
            exact (submit_core text path uri _).trans (submitted_congr _ path uri rfl)
        | none =>
            obtain ⟨failure, hfailure⟩ :=
              documentText_of_not_readText (s := noted) ⟨path, hpath⟩ hread
            rw [Act.bind_apply, Act.bind_error _ hfailure]
            rfl
      · simp only [hsource]
        rfl

/-- What a text that is given does to the core of a session. -/
theorem replaceText_documentChanged_core (event uri text : String) (s : Session) :
    ((replaceText uri text >>= fun _ => documentChanged event (.ok text) uri) s).2.core =
      (s.replaced uri text).core := by
  simp only [replaceText, replaced, Act.bind_apply, Act.bind, Act.look_apply]
  cases Editor.put uri text s.documents with
  | error failure => rfl
  | ok documents => exact documentChanged_core event (.ok text) uri _

theorem openDocument_core (uri text : String) (s : Session) :
    (openDocument uri text s).2.core = (s.replaced uri text).core :=
  replaceText_documentChanged_core "onDidOpen" uri text s

theorem changeDocument_core (uri text : String) (s : Session) :
    (changeDocument uri text s).2.core = (s.replaced uri text).core :=
  replaceText_documentChanged_core "onDidChangeContent" uri text s

theorem saveDocument_core (reading : Except Failure String) (uri : String) (s : Session) :
    (saveDocument reading uri s).2.core = (s.handled reading uri).core :=
  documentChanged_core _ reading uri s

theorem closeDocument_core (uri : String) (s : Session) :
    (closeDocument uri s).2.core = (s.closed uri).core := by
  have hremoved := Editor.remove_eq uri s.documents
  exact congrArg (fun documents => (dropDocument uri { s with documents }).core) hremoved

end Acts

theorem spread_congr (documents : List Document) {s t : Session} (h : s.core = t.core) :
    (s.spread documents).core = (t.spread documents).core := by
  induction documents generalizing s t with
  | nil => exact h
  | cons document documents ih =>
      simp only [spread]
      cases Uri.filePath document.uri with
      | error failure => exact h
      | ok path =>
          refine ih ?_
          split
          · exact submitted_congr _ _ _ h
          · exact h

theorem named_congr (interpreter : Datum) {s t : Session} (h : s.core = t.core) :
    (s.named interpreter).core = (t.named interpreter).core := by
  have hdocuments : s.core.documents = t.core.documents := congrArg documents h
  change s.documents = t.documents at hdocuments
  unfold named
  split
  · have hnamed : ({ s with interpreter } : Session).core =
        ({ t with interpreter } : Session).core :=
      congrArg (fun r : Session => { r with interpreter }) h
    refine (spread_congr s.documents hnamed).trans ?_
    exact congrArg (fun ds => (spread ds { t with interpreter }).core) hdocuments
  · have hcleared : ({ s with interpreter, blocks := {}, diagnostics := {} } : Session).core =
        ({ t with interpreter, blocks := {}, diagnostics := {} } : Session).core :=
      congrArg (fun r : Session => { r with interpreter, blocks := {}, diagnostics := {} }) h
    exact hcleared

theorem submitAll_core (documents : List Document) (s : Session) :
    (submitAll documents s).2.core = (s.spread documents).core := by
  induction documents generalizing s with
  | nil => rfl
  | cons document documents ih =>
      simp only [submitAll, spread]
      cases Uri.filePath document.uri with
      | error failure => rfl
      | ok path =>
          simp only [Act.ofExcept_ok_bind_apply]
          by_cases hsource : isSourcePath path = true
          · simp only [hsource, if_true]
            rw [Act.bind_apply, Act.bind_ok _ (submit_ok document.text path document.uri s), ih]
            exact spread_congr documents (submit_core document.text path document.uri s)
          · simp only [hsource]
            exact ih s

theorem clear_core (s : Session) :
    s.clear.core = { s.core with blocks := {}, diagnostics := {} } := by
  have htell : ∀ (documents : List Document) (t : Session),
      (documents.foldl (fun s document => s.tell (.diagnostics document.uri [])) t).core =
        t.core := by
    intro documents
    induction documents with
    | nil => intro t; rfl
    | cons document documents ih => intro t; exact ih _
  exact htell s.documents _

theorem refresh_core (refusal : Option Failure) (s : Session) :
    (refresh refusal s).2.core = s.core := by
  simp only [refresh, Act.modify_bind_apply]
  cases refusal with
  | none => rfl
  | some failure =>
      by_cases h : failure.isOrdinary = true
      · simp only [h, if_true]
        rfl
      · simp only [h]
        rfl

/-- **The interpreter in the core:** with one, all open sources are run; without one, nothing is
kept. -/
theorem changeInterpreter_core (refusal : Option Failure) (interpreter : Datum) (s : Session) :
    (changeInterpreter refusal interpreter s).2.core = (s.named interpreter).core := by
  simp only [changeInterpreter, Act.look_bind_apply, Act.modify_bind_apply, note_bind_apply, named,
    id_eq]
  have hon : (({ s with interpreter } : Session).addLog .info ("Python interpreter changed: " ++
      s.interpreter.shown ++ " -> " ++ interpreter.shown)).hasInterpreter = interpreter.isOn := rfl
  rw [hon]
  split
  · exact (submitAll_core _ _).trans (spread_congr _ rfl)
  · simp only [Act.modify_bind_apply]
    rw [refresh_core, clear_core]
    rfl

end Session

end JitExplorer
