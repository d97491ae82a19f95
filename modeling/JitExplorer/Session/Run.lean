/-
**Runs of the server.**

A document is run by submitting a task; without an interpreter its blocks and diagnostics are
cleared instead, and while a run of it is under way it is only marked.  A task that is taken from
the queue starts a process.  When the process is over, the blocks or the fault are stored and
published, the document is released, and if it was marked, its latest text is run again.

The steps of a run are definitions of their own, since other steps of the server may come between
them.

Main definitions:

* `Session.submit` — a run of a document is asked for;
* `Session.takeTask?`, `Session.begin` — the first task of the queue is started;
* `Session.settle` — the outcome of a process is stored and published;
* `Session.release`, `Session.rerun` — the document is released, and run again if it was marked;
* `Session.conclude` — all that follows the end of a process.

Main results:

* `Session.release_running` — a released document has no run under way.
-/

import JitExplorer.Session
import JitExplorer.Text.Blank

set_option autoImplicit false

namespace JitExplorer.Session

/-! ### Asking for a run -/

/-- Without an interpreter nothing is kept or shown for a document. -/
def skip (uri : String) : Act Session Unit := do
  note .warning "No Python interpreter configured, skipping explorer run"
  Act.modify (store uri [] [])
  Act.modify (publish uri)

/-- A document that changed during its run is marked. -/
def mark (uri : String) : Act Session Unit := do
  note .debug ("Explorer already running for " ++ uri ++ ", queued another run")
  Act.modify fun s => { s with pending := s.pending.set uri true }

/-- The run of a document is put into the queue. -/
def enqueue (uri : String) (invocation : Invocation) : Act Session Unit :=
  Act.modify fun s =>
    { s with running := s.running.set uri true, queue := s.queue ++ [{ uri, invocation }] }

/-- **A run of a document is asked for.** -/
def submit (text path uri : String) : Act Session Unit := do
  let s ← Act.look id
  -- The run keeps the interpreter and the stage of now, even if it waits in the queue for long.
  let invocation : Invocation :=
    { text, scriptPath := path, interpreter := s.interpreter, stage := s.stage.shown }
  if s.hasInterpreter then
    if s.isRunning uri then mark uri else enqueue uri invocation
  else skip uri

/-! ### The process -/

/-- The first task of the queue, and the session without it. -/
def takeTask? (s : Session) : Option (Task × Session) :=
  match s.queue with
  | [] => none
  | task :: queue => some (task, { s with queue })

/-- A task is started. -/
def begin (task : Task) : Act Session Unit :=
  note .info ("Starting explorer for " ++ task.uri)

/-! ### The outcome -/

/-- A fault is shown over the whole document. -/
def report (uri message : String) : Act Session Unit := do
  Act.modify (store uri [] [{ message }])
  Act.modify (publish uri)

/-- The editor is asked to refresh its hints; its refusal does no harm, unless it is a failure that
nothing may handle. -/
def refresh (refusal : Option Failure) : Act Session Unit := do
  Act.modify (tell .refresh)
  match refusal with
  | none => pure ()
  | some failure =>
      if failure.isOrdinary then note .debug ("Failed to refresh inlay hints: " ++ failure.text)
      else Act.fail failure

/-- The text of an error stream as it is shown in the log. -/
def errorsText (errors : Option String) : String :=
  errors.getD "None"

/-- What is shown for an exit code: the error stream without the blanks at its ends, or else the
code. -/
def exitMessage (code : Int) (errors : Option String) : String :=
  match errors with
  | some text =>
      if text.isEmpty then "numba-explorer failed with code " ++ Text.intText code
      else String.ofList (Text.trim text.toList)
  | none => "numba-explorer failed with code " ++ Text.intText code

/-- A failure that ended the process or the reading of its output. -/
def settleFailure (uri : String) (failure : Failure) : Act Session Unit :=
  match failure with
  | .explorer (.framing line detail) => do
      let text := (ExplorerError.framing line detail).message
      note .error ("Unreadable explorer output for " ++ uri ++ ": " ++ text)
      report uri ("Failed to parse numba-explorer output: " ++ text)
  | failure =>
      if failure.isOrdinary then do
        note .error ("Unexpected error while exploring " ++ uri ++ ": " ++ failure.text)
        report uri ("Unexpected error: " ++ failure.text)
      else Act.fail failure

/-- **The outcome of a process is stored and published.** -/
def settle (uri : String) (refusal : Option Failure) :
    Except Invocation.Fault (List Block) → Act Session Unit
  | .error .stopped => do
      note .error ("Explorer timed out for " ++ uri)
      report uri ("numba-explorer timed out (" ++ Text.natText Invocation.timeout ++ "s)")
  | .error (.exited code errors) => do
      note .error ("Explorer failed for " ++ uri ++ ": " ++ errorsText errors)
      report uri (exitMessage code errors)
  | .error (.raised failure) => settleFailure uri failure
  | .ok blocks => do
      Act.modify (store uri blocks [])
      note .info
        ("Cache updated for " ++ uri ++ " with " ++ Text.natText blocks.length ++
          " blocks (total time: 0ms)")
      refresh refusal
      Act.modify (publish uri)

/-! ### The end of a run -/

/-- A document has no run under way any more, and its mark is taken away. -/
def release (uri : String) (s : Session) : Session :=
  { s with running := s.running.set uri false, pending := s.pending.erase uri }

/-- A document is marked to be run again. -/
def isPending (uri : String) (s : Session) : Bool :=
  (s.pending.get? uri).getD false

@[simp] theorem release_running (uri : String) (s : Session) :
    (s.release uri).isRunning uri = false := by
  simp [release, isRunning]

/-- The text of an open document, which has to be listed under exactly this URI. -/
def latestText? (uri : String) (s : Session) : Option String :=
  (s.document? uri).map Document.text

/-- The latest text of a document is run. -/
def rerun (uri : String) : Act Session Unit := do
  let text ← Act.look (latestText? uri)
  match text with
  | none => pure ()
  | some text => do
      note .debug ("Exploring queued edits for " ++ uri)
      let path ← Act.ofExcept (Uri.filePath uri)
      submit text path uri

/-- A document is released, and run again if it was marked. -/
def finish (uri : String) : Act Session Unit := do
  let marked ← Act.look (isPending uri)
  -- Once it is released, the document can be run again before the rerun is asked for.
  Act.modify (release uri)
  if marked then rerun uri else pure ()

/-- **All that follows the end of a process.** -/
def conclude (uri : String) (refusal : Option Failure)
    (result : Except Invocation.Fault (List Block)) : Act Session Unit :=
  (settle uri refusal result).always (finish uri)

end JitExplorer.Session
