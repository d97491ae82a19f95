/-
**The server with its threads.**

The main thread handles what the editor asks, one request after another; workers take runs from the
queue.  A thread is a list of pieces.  A piece is what happens without another thread coming in
between: what is done under the lock at once, one look at the state, one word to the editor, or the
end of a process.  A piece may put further pieces in front of the thread.  If it fails, the thread
goes on with the piece that releases its document, which comes last in any case.

Main definitions:

* `Session.Piece`, `Session.Piece.act` — pieces and what they do;
* `Session.advance` — a thread does its first piece;
* `Session.Request`, `Session.Machine`, `Session.Turn`, `Session.Machine.turn` — requests, threads
  on a shared session, and the turns that they take in any order;
* `Session.Leads` — where a thread gets to when no other one comes in between.

Main results:

* `Session.leads_event`, `Session.leads_hints`, `Session.leads_conclude` — a thread that is left
  alone does what the acts of the server do.
-/

import JitExplorer.Proofs.Session.History

set_option autoImplicit false

namespace JitExplorer.Session

/-! ### Pieces -/

/-- What a piece is answered from outside: the result of a process, and how the editor refuses to
refresh its hints. -/
structure Answer where
  result : Except Invocation.Fault (List Block) := .ok []
  refusal : Option Failure := none

/-- What a thread does without another one coming in between. -/
inductive Piece where
  /-- A record is added to the log. -/
  | log (level : Log.Level) (message : String)
  /-- The editor is told something. -/
  | send (notice : Notice)
  /-- The editor is asked to refresh its hints. -/
  | refresh
  /-- A run is asked for: is there an interpreter? -/
  | ask (text path uri : String)
  /-- Under the lock: the document is marked if it has a run, and has one now if it had none. -/
  | claim (text path uri : String)
  /-- The interpreter of the run is looked up. -/
  | equip (text path uri : String)
  /-- The stage of the run is looked up. -/
  | aim (text path uri : String) (interpreter : Datum)
  /-- The run is put into the queue. -/
  | put (task : Task)
  /-- The process of the run comes to its end. -/
  | explore (task : Task)
  /-- Under the lock: blocks and diagnostics are kept. -/
  | keep (uri : String) (blocks : List Block) (diagnostics : List Diagnostic)
  /-- Under the lock: the diagnostics to be published are looked up. -/
  | collect (uri : String)
  /-- Under the lock: the document is released. -/
  | release (uri : String)
  /-- The latest text of a marked document is looked up. -/
  | reread (uri : String)
  /-- The text of a document is replaced. -/
  | replace (event uri text : String)
  /-- A document changed in some way; if it is not open, its reading comes to what is given. -/
  | handle (event uri : String) (reading : Except Failure String)
  /-- The text of a source that changed is looked up. -/
  | fetch (path uri : String) (reading : Except Failure String)
  /-- A document is not open any more. -/
  | remove (uri : String)
  /-- Under the lock: what is kept for a document is dropped. -/
  | drop (uri : String)
  /-- The interpreter is named. -/
  | name (interpreter : Datum)
  /-- All sources among some documents are run. -/
  | visit (documents : List Document)
  /-- Under the lock: nothing is kept for any document. -/
  | wipe
  /-- Hints are asked for. -/
  | glance (uri : String) (first last : Int) (reading : Except Failure String)
  /-- Under the lock: the blocks for the hints are looked up. -/
  | consult (uri : String) (first last : Int) (reading : Except Failure String)
  /-- The hints are made. -/
  | present (uri : String) (first last : Int) (reading : Except Failure String)
      (blocks : List Block)

/-- What follows the end of a process.  A failure that nothing may handle ends the run. -/
def outcome (uri : String) (s : Session) :
    Except Invocation.Fault (List Block) → Except Failure (List Piece) × Session
  | .ok blocks =>
      (.ok [.keep uri blocks [],
        .log .info ("Cache updated for " ++ uri ++ " with " ++ Text.natText blocks.length ++
          " blocks (total time: 0ms)"),
        .refresh, .collect uri], s)
  | .error fault =>
      let reported := [.keep uri [] [{ message := faultMessage fault }], .collect uri]
      match fault with
      | .raised failure =>
          if failure.isOrdinary then (.ok reported, s.addLog .error (faultRecord uri fault))
          else (.error failure, s)
      | _ => (.ok reported, s.addLog .error (faultRecord uri fault))

/-- **What a piece does:** the pieces that come next, or a failure, and the session afterwards. -/
def Piece.act [Editor] (answer : Answer) (s : Session) :
    Piece → Except Failure (List Piece) × Session
  | .log level message => (.ok [], s.addLog level message)
  | .send notice => (.ok [], s.tell notice)
  | .refresh => (((Session.refresh answer.refusal s).1.map fun _ => []),
      (Session.refresh answer.refusal s).2)
  | .ask text path uri =>
      if s.hasInterpreter then (.ok [.claim text path uri], s)
      else
        (.ok [.keep uri [] [], .collect uri],
          s.addLog .warning "No Python interpreter configured, skipping explorer run")
  | .claim text path uri =>
      if s.isRunning uri then (.ok [], (mark uri s).2)
      else (.ok [.equip text path uri], { s with running := s.running.set uri true })
  | .equip text path uri => (.ok [.aim text path uri s.interpreter], s)
  | .aim text path uri interpreter =>
      let invocation : Invocation :=
        { text, scriptPath := path, interpreter, stage := s.stage.shown }
      (.ok [.put { uri := uri, invocation := invocation }], s)
  | .put task => (.ok [], { s with queue := s.queue ++ [task] })
  | .explore task => outcome task.uri s answer.result
  | .keep uri blocks diagnostics => (.ok [], s.store uri blocks diagnostics)
  | .collect uri => (.ok [.send (.diagnostics uri ((s.diagnostics.get? uri).getD []))], s)
  | .release uri => (.ok (if s.isPending uri then [.reread uri] else []), s.release uri)
  | .reread uri =>
      match s.latestText? uri with
      | none => (.ok [], s)
      | some text =>
          let t := s.addLog .debug ("Exploring queued edits for " ++ uri)
          match Uri.filePath uri with
          | .error failure => (.error failure, t)
          | .ok path => (.ok [.ask text path uri], t)
  | .replace event uri text =>
      match Editor.put uri text s.documents with
      | .error failure => (.error failure, s)
      | .ok documents => (.ok [.handle event uri (.ok text)], { s with documents })
  | .handle event uri reading =>
      match Uri.filePath uri with
      | .error failure => (.error failure, s)
      | .ok path =>
          if isSourcePath path then
            (.ok [.fetch path uri reading],
              s.addLog .debug ("[Event: " ++ event ++ "] Running explorer: " ++ uri))
          else (.ok [], s)
  | .fetch path uri reading =>
      ((documentText reading uri s).1.map fun text => [.ask text path uri],
        (documentText reading uri s).2)
  | .remove uri => (.ok [.drop uri], { s with documents := Editor.remove uri s.documents })
  | .drop uri => (.ok [.send (.diagnostics uri [])], s.dropDocument uri)
  | .name interpreter =>
      (.ok (if interpreter.isOn then [.visit s.documents] else [.wipe]),
        ({ s with interpreter } : Session).addLog .info
          ("Python interpreter changed: " ++ s.interpreter.shown ++ " -> " ++ interpreter.shown))
  | .visit documents =>
      match documents with
      | [] => (.ok [], s)
      | document :: documents =>
          match Uri.filePath document.uri with
          | .error failure => (.error failure, s)
          | .ok path =>
              if isSourcePath path then
                (.ok [.ask document.text path document.uri, .visit documents], s)
              else (.ok [.visit documents], s)
  | .wipe =>
      (.ok (s.documents.map (fun document => .send (.diagnostics document.uri [])) ++ [.refresh]),
        { s with blocks := {}, diagnostics := {} })
  | .glance uri first last reading =>
      match (findDocument uri s).1, Uri.filePath uri with
      | .error failure, _ => (.error failure, s)
      | .ok _, .error failure => (.error failure, s)
      | .ok _, .ok path =>
          (.ok (if isSourcePath path then [.consult uri first last reading] else []), s)
  | .consult uri first last reading =>
      match s.blocks.get? uri with
      | some (block :: blocks) => (.ok [.present uri first last reading (block :: blocks)], s)
      | _ => (.ok [], s)
  | .present uri first last reading blocks =>
      match (documentText reading uri s).1 with
      | .error failure => (.error failure, s)
      | .ok text =>
          match Hint.build Editor.places (sourceLines text) s.stage.shown blocks first last with
          | .error failure => (.error failure, s)
          | .ok _ => (.ok [], s)

/-- A piece releases a document. -/
def Piece.isRelease : Piece → Bool
  | .release _ => true
  | _ => false

/-- What a thread goes on with after its first piece: with the pieces that come next, or after a
failure with the release of its document, if it has one. -/
def follow (pieces : List Piece) : Except Failure (List Piece) → List Piece
  | .ok more => more ++ pieces
  | .error _ => pieces.dropWhile fun piece => !piece.isRelease

/-- **A thread does its first piece.** -/
def advance [Editor] (answer : Answer) : List Piece × Session → List Piece × Session
  | ([], s) => ([], s)
  | (piece :: pieces, s) => (follow pieces (piece.act answer s).1, (piece.act answer s).2)

/-! ### Threads that share a session -/

/-- What the editor asks. -/
inductive Request where
  | event (event : Event)
  | hints (uri : String) (first last : Int) (reading : Except Failure String)

/-- How an event is handled. -/
def Event.pieces : Event → List Piece
  | .opened uri text => [.replace "onDidOpen" uri text]
  | .changed uri text => [.replace "onDidChangeContent" uri text]
  | .saved uri reading => [.handle "onDidSave" uri reading]
  | .closed uri => [.remove uri]
  | .named _ interpreter => [.name interpreter]

/-- How a request is handled. -/
def Request.pieces : Request → List Piece
  | .event e => e.pieces
  | .hints uri first last reading => [.glance uri first last reading]

/-- How a run is done that was taken from the queue. -/
def Task.pieces (task : Task) : List Piece :=
  [.log .info ("Starting explorer for " ++ task.uri), .explore task, .release task.uri]

/-- The server with its threads. -/
structure Machine where
  session : Session
  main : List Piece := []
  workers : List (List Piece) := []

/-- Whose turn it is. -/
inductive Turn where
  /-- The editor asks something, which is handled once the main thread has nothing else to do. -/
  | request (request : Request)
  /-- The main thread does a piece. -/
  | main (answer : Answer)
  /-- A worker takes the first run of the queue. -/
  | take
  /-- A worker does a piece. -/
  | work (place : Nat) (answer : Answer)

namespace Machine

/-- **One turn of the server.** -/
def turn [Editor] (m : Machine) : Turn → Machine
  | .request request => if m.main.isEmpty then { m with main := request.pieces } else m
  | .main answer =>
      let (main, session) := advance answer (m.main, m.session)
      { m with main, session }
  | .take =>
      match takeTask? m.session with
      | none => m
      | some (task, session) => { m with session, workers := m.workers ++ [task.pieces] }
  | .work place answer =>
      match m.workers[place]? with
      | none => m
      | some pieces =>
          let (pieces, session) := advance answer (pieces, m.session)
          { m with session, workers := m.workers.set place pieces }

/-- Several turns of the server. -/
def run [Editor] (m : Machine) (turns : List Turn) : Machine :=
  turns.foldl turn m

/-- The server that was just started with some interpreter and stage. -/
def fresh (interpreter stage : Datum) : Machine where
  session := { interpreter, stage }

/-- **A state that the server can come to,** however its threads take their turns. -/
def IsReachable [Editor] (m : Machine) : Prop :=
  ∃ interpreter stage turns, m = (fresh interpreter stage).run turns

end Machine

/-! ### A thread that is left alone -/

/-- A thread gets to a state when no other one comes in between. -/
inductive Leads [Editor] (answer : Answer) (a : List Piece × Session) :
    List Piece × Session → Prop where
  | refl : Leads answer a a
  | step {b : List Piece × Session} : Leads answer a b → Leads answer a (advance answer b)

section Leads

variable [Editor] {answer : Answer} {pieces : List Piece} {s : Session}

theorem Leads.trans {a b c : List Piece × Session} (h : Leads answer a b) (h' : Leads answer b c) :
    Leads answer a c := by
  induction h' with
  | refl => exact h
  | step _ ih => exact ih.step

/-- A piece that succeeds leads to the pieces behind it. -/
theorem leads_of_act {piece : Piece} {more : List Piece} {t : Session}
    (h : piece.act answer s = (.ok more, t)) :
    Leads answer (piece :: pieces, s) (more ++ pieces, t) := by
  have hstep : Leads answer (piece :: pieces, s) (advance answer (piece :: pieces, s)) :=
    Leads.refl.step
  rwa [advance, h] at hstep

/-- A piece that fails leads to the release of the document, or to the end. -/
theorem leads_of_act_error {piece : Piece} {failure : Failure} {t : Session}
    (h : piece.act answer s = (.error failure, t)) :
    Leads answer (piece :: pieces, s) (pieces.dropWhile fun piece => !piece.isRelease, t) := by
  have hstep : Leads answer (piece :: pieces, s) (advance answer (piece :: pieces, s)) :=
    Leads.refl.step
  rwa [advance, h] at hstep

/-- The diagnostics that are kept are published. -/
theorem leads_collect (uri : String) (s : Session) :
    Leads answer (.collect uri :: pieces, s) (pieces, s.publish uri) :=
  Leads.refl.step.step

/-- **A run that is asked for.** -/
theorem leads_ask (text path uri : String) (s : Session) :
    Leads answer (.ask text path uri :: pieces, s) (pieces, (submit text path uri s).2) := by
  by_cases hon : s.hasInterpreter = true
  · have hask : (Piece.ask text path uri).act answer s = (.ok [.claim text path uri], s) :=
      if_pos hon
    refine (leads_of_act hask).trans ?_
    by_cases hrunning : s.isRunning uri = true
    · have hclaim : (Piece.claim text path uri).act answer s = (.ok [], (mark uri s).2) :=
        if_pos hrunning
      have hsubmit : (submit text path uri s).2 = (mark uri s).2 := by
        simp [submit, hon, hrunning]
      rw [hsubmit]
      exact leads_of_act hclaim
    · have hclaim : (Piece.claim text path uri).act answer s =
          (.ok [.equip text path uri], { s with running := s.running.set uri true }) :=
        if_neg hrunning
      have hsubmit : (submit text path uri s).2 =
          (enqueue uri (s.invocation text path) s).2 := by
        simp [submit, hon, hrunning, invocation]
      rw [hsubmit]
      exact (leads_of_act hclaim).trans Leads.refl.step.step.step
  · have hask : (Piece.ask text path uri).act answer s =
        (.ok [.keep uri [] [], .collect uri],
          s.addLog .warning "No Python interpreter configured, skipping explorer run") :=
      if_neg hon
    have hsubmit : (submit text path uri s).2 = (skip uri s).2 := by
      simp [submit, hon]
    rw [hsubmit]
    exact (leads_of_act hask).trans Leads.refl.step.step.step

/-! ### Events -/

/-- A document that changed in some way. -/
theorem leads_handle (event uri : String) (reading : Except Failure String) (s : Session) :
    Leads answer ([.handle event uri reading], s)
      ([], (documentChanged event reading uri s).2) := by
  cases hpath : Uri.filePath uri with
  | error failure =>
      have hact : (Piece.handle event uri reading).act answer s = (.error failure, s) := by
        simp [Piece.act, hpath]
      have hchanged : (documentChanged event reading uri s).2 = s := by
        simp [documentChanged, hpath]
      rw [hchanged]
      exact leads_of_act_error hact
  | ok path =>
      by_cases hsource : isSourcePath path = true
      · have hact : (Piece.handle event uri reading).act answer s = (.ok [.fetch path uri reading],
            s.addLog .debug ("[Event: " ++ event ++ "] Running explorer: " ++ uri)) := by
          simp [Piece.act, hpath, hsource]
        refine (leads_of_act hact).trans ?_
        simp only [documentChanged, hpath, Act.ofExcept_ok_bind_apply, hsource, if_true,
          note_bind_apply]
        generalize s.addLog .debug ("[Event: " ++ event ++ "] Running explorer: " ++ uri) = t
        cases hread : t.readText? reading uri with
        | some text =>
            have htext := documentText_of_readText ⟨path, hpath⟩ hread
            have hfetch : (Piece.fetch path uri reading).act answer t =
                (.ok [.ask text path uri], t) := by
              rw [Piece.act, htext]
              rfl
            rw [Act.bind_apply, Act.bind_ok _ htext]
            exact (leads_of_act hfetch).trans (leads_ask text path uri t)
        | none =>
            obtain ⟨failure, hfailure⟩ := documentText_of_not_readText ⟨path, hpath⟩ hread
            have hfetch : (Piece.fetch path uri reading).act answer t = (.error failure, t) := by
              rw [Piece.act, hfailure]
              rfl
            rw [Act.bind_apply, Act.bind_error _ hfailure]
            exact leads_of_act_error hfetch
      · have hact : (Piece.handle event uri reading).act answer s = (.ok [], s) := by
          simp [Piece.act, hpath, hsource]
        have hchanged : (documentChanged event reading uri s).2 = s := by
          simp [documentChanged, hpath, hsource]
        rw [hchanged]
        exact leads_of_act hact

/-- A text that is given. -/
theorem leads_replace (event uri text : String) (s : Session) :
    Leads answer ([.replace event uri text], s)
      ([], (Act.bind (replaceText uri text)
        (fun _ => documentChanged event (.ok text) uri) s).2) := by
  cases hput : Editor.put uri text s.documents with
  | error failure =>
      have hact : (Piece.replace event uri text).act answer s = (.error failure, s) := by
        simp [Piece.act, hput]
      have hreplaced : (Act.bind (replaceText uri text)
          (fun _ => documentChanged event (.ok text) uri) s).2 = s := by
        simp [Act.bind, replaceText, hput]
      rw [hreplaced]
      exact leads_of_act_error hact
  | ok documents =>
      have hact : (Piece.replace event uri text).act answer s =
          (.ok [.handle event uri (.ok text)], { s with documents }) := by
        simp [Piece.act, hput]
      refine (leads_of_act hact).trans ?_
      simp only [Act.bind, replaceText, Act.look_bind_apply, hput, Act.ofExcept_ok_bind_apply,
        Act.modify_apply]
      exact leads_handle event uri (.ok text) _

/-- The documents that are visited are run. -/
theorem leads_visit (documents : List Document) (s : Session) :
    Leads answer ([.visit documents], s) ([], (submitAll documents s).2) := by
  induction documents generalizing s with
  | nil => exact Leads.refl.step
  | cons document documents ih =>
      cases hpath : Uri.filePath document.uri with
      | error failure =>
          have hact : (Piece.visit (document :: documents)).act answer s = (.error failure, s) := by
            simp [Piece.act, hpath]
          have hall : (submitAll (document :: documents) s).2 = s := by
            simp [submitAll, hpath]
          rw [hall]
          exact leads_of_act_error hact
      | ok path =>
          simp only [submitAll, hpath, Act.ofExcept_ok_bind_apply]
          by_cases hsource : isSourcePath path = true
          · have hact : (Piece.visit (document :: documents)).act answer s =
                (.ok [.ask document.text path document.uri, .visit documents], s) := by
              simp [Piece.act, hpath, hsource]
            rw [if_pos hsource, Act.bind_apply,
              Act.bind_ok _ (submit_ok document.text path document.uri s)]
            exact (leads_of_act hact).trans ((leads_ask _ _ _ s).trans (ih _))
          · have hact : (Piece.visit (document :: documents)).act answer s =
                (.ok [.visit documents], s) := by
              simp [Piece.act, hpath, hsource]
            rw [if_neg hsource]
            exact (leads_of_act hact).trans (ih s)

/-- Notices that are told one after another. -/
theorem leads_send (notices : List Notice) (s : Session) :
    Leads answer (notices.map Piece.send ++ pieces, s)
      (pieces, notices.foldl (fun s notice => s.tell notice) s) := by
  induction notices generalizing s with
  | nil => exact Leads.refl
  | cons notice notices ih => exact (leads_of_act rfl).trans (ih (s.tell notice))

/-- The editor refreshes its hints, or its refusal does no harm. -/
theorem leads_refresh_ok (h : (refresh answer.refusal s).1 = .ok ()) :
    Leads answer (.refresh :: pieces, s) (pieces, (refresh answer.refusal s).2) := by
  have hact : Piece.refresh.act answer s = (.ok [], (refresh answer.refusal s).2) := by
    rw [Piece.act, h]
    rfl
  exact leads_of_act hact

/-- The refusal of the editor ends what the thread does. -/
theorem leads_refresh_error {failure : Failure}
    (h : (refresh answer.refusal s).1 = .error failure) :
    Leads answer (.refresh :: pieces, s)
      (pieces.dropWhile fun piece => !piece.isRelease, (refresh answer.refusal s).2) := by
  have hact : Piece.refresh.act answer s = (.error failure, (refresh answer.refusal s).2) := by
    rw [Piece.act, h]
    rfl
  exact leads_of_act_error hact

/-- The editor is asked to refresh its hints. -/
theorem leads_refresh (s : Session) :
    Leads answer ([.refresh], s) ([], (refresh answer.refusal s).2) := by
  cases h : (refresh answer.refusal s).1 with
  | ok _ => exact leads_refresh_ok h
  | error failure => exact leads_refresh_error h

/-- Nothing is kept or shown for any document. -/
theorem leads_wipe (s : Session) :
    Leads answer ([.wipe], s) ([], (refresh answer.refusal s.clear).2) := by
  have hact : Piece.wipe.act answer s =
      (.ok (s.documents.map (fun document => .send (.diagnostics document.uri [])) ++ [.refresh]),
        { s with blocks := {}, diagnostics := {} }) := rfl
  have hsend : Leads answer
      ((s.documents.map fun document => .diagnostics document.uri []).map Piece.send ++ [.refresh],
        { s with blocks := {}, diagnostics := {} }) ([.refresh], _) := leads_send _ _
  rw [List.map_map, List.foldl_map] at hsend
  have hstart : Leads answer ([.wipe], s) (_ ++ [], _) := leads_of_act hact
  rw [List.append_nil] at hstart
  exact hstart.trans (hsend.trans (leads_refresh s.clear))

/-- The interpreter is named. -/
theorem leads_name (interpreter : Datum) (s : Session) :
    Leads answer ([.name interpreter], s)
      ([], (changeInterpreter answer.refusal interpreter s).2) := by
  simp only [changeInterpreter, Act.look_bind_apply, Act.modify_bind_apply, note_bind_apply, id_eq]
  have hact : (Piece.name interpreter).act answer s =
      (.ok (if interpreter.isOn then [.visit s.documents] else [.wipe]),
        ({ s with interpreter } : Session).addLog .info
          ("Python interpreter changed: " ++ s.interpreter.shown ++ " -> " ++
            interpreter.shown)) := rfl
  have hserved : (({ s with interpreter } : Session).addLog .info
      ("Python interpreter changed: " ++ s.interpreter.shown ++ " -> " ++
        interpreter.shown)).hasInterpreter = interpreter.isOn := rfl
  rw [hserved]
  refine (leads_of_act hact).trans ?_
  by_cases hon : interpreter.isOn = true
  · rw [if_pos hon, if_pos hon]
    exact leads_visit s.documents _
  · rw [if_neg hon, if_neg hon]
    exact leads_wipe _

/-- How the editor refuses to refresh its hints after an event. -/
def Event.refusal : Event → Option Failure
  | .named refusal _ => refusal
  | _ => none

/-- **The main thread that is left alone handles an event as a whole.** -/
theorem leads_event (event : Event) (h : answer.refusal = event.refusal) (s : Session) :
    Leads answer (event.pieces, s) ([], (event.act s).2) := by
  cases event with
  | opened uri text => exact leads_replace "onDidOpen" uri text s
  | changed uri text => exact leads_replace "onDidChangeContent" uri text s
  | saved uri reading => exact leads_handle "onDidSave" uri reading s
  | closed uri => exact Leads.refl.step.step.step
  | named refusal interpreter =>
      change answer.refusal = refusal at h
      subst h
      exact leads_name interpreter s

/-! ### Hints -/

/-- Hints change nothing. -/
theorem hints_snd (reading : Except Failure String) (uri : String) (first last : Int)
    (s : Session) : (hints reading uri first last s).2 = s := by
  have hkept := findDocument_snd uri s
  rcases hfound : findDocument uri s with ⟨result, t⟩
  rw [hfound] at hkept
  change t = s at hkept
  subst hkept
  unfold hints
  cases result with
  | error failure => rw [Act.bind_apply, Act.bind_error _ hfound]
  | ok _ =>
      rw [Act.bind_apply, Act.bind_ok _ hfound]
      cases Uri.filePath uri with
      | error failure => rfl
      | ok path =>
          simp only [Act.ofExcept_ok_bind_apply, Act.look_bind_apply, id_eq]
          rcases t.blocks.get? uri with _ | _ | ⟨block, blocks⟩
          · rfl
          · rfl
          · cases isSourcePath path with
            | false => rfl
            | true =>
                have htext := documentText_snd reading uri t
                rcases hread : documentText reading uri t with ⟨result, r⟩
                rw [hread] at htext
                change r = t at htext
                subst htext
                cases result with
                | error failure => simp only [Act.bind_apply, Act.bind_error _ hread]
                | ok text =>
                    simp only [Act.bind_apply, Act.bind_ok _ hread]
                    rfl

/-- A piece that changes nothing leads to the end if what it puts in front does. -/
theorem leads_of_unchanged {piece : Piece} (h : (piece.act answer s).2 = s)
    (hmore : ∀ more, (piece.act answer s).1 = .ok more → Leads answer (more, s) ([], s)) :
    Leads answer ([piece], s) ([], s) := by
  cases hresult : (piece.act answer s).1 with
  | error failure =>
      have hact : piece.act answer s = (.error failure, s) := Prod.ext hresult h
      exact leads_of_act_error hact
  | ok more =>
      have hact : piece.act answer s = (.ok more, s) := Prod.ext hresult h
      have hstep : Leads answer ([piece], s) (more ++ [], s) := leads_of_act hact
      rw [List.append_nil] at hstep
      exact hstep.trans (hmore more hresult)

/-- Hints that are asked for. -/
theorem leads_hints (uri : String) (first last : Int) (reading : Except Failure String)
    (s : Session) :
    Leads answer ([.glance uri first last reading], s)
      ([], (hints reading uri first last s).2) := by
  rw [hints_snd]
  have hpresent : ∀ blocks, Leads answer ([.present uri first last reading blocks], s) ([], s) := by
    intro blocks
    refine leads_of_unchanged ?_ ?_
    · simp only [Piece.act]
      repeat' split
      all_goals rfl
    · intro more hmore
      simp only [Piece.act] at hmore
      repeat' split at hmore
      all_goals simp_all [Leads.refl]
  have hconsult : Leads answer ([.consult uri first last reading], s) ([], s) := by
    refine leads_of_unchanged ?_ ?_
    · simp only [Piece.act]
      split <;> rfl
    · intro more hmore
      simp only [Piece.act] at hmore
      split at hmore
      · obtain rfl := Except.ok.inj hmore
        exact hpresent _
      · obtain rfl := Except.ok.inj hmore
        exact Leads.refl
  refine leads_of_unchanged ?_ ?_
  · simp only [Piece.act]
    repeat' split
    all_goals rfl
  · -- The document was found, and what is kept for it is consulted, or there is nothing to do.
    intro more hmore
    simp only [Piece.act] at hmore
    repeat' split at hmore
    all_goals simp_all [Leads.refl]

/-! ### Runs -/

/-- The outcome of a process is stored and published. -/
theorem leads_settle (task : Task) (s : Session) :
    Leads answer ([.explore task, .release task.uri], s)
      ([.release task.uri], (settle task.uri answer.refusal answer.result s).2) := by
  have hreported : ∀ level record message, Leads answer
      ([.keep task.uri [] [{ message }], .collect task.uri, .release task.uri],
        s.addLog level record)
      ([.release task.uri], (report task.uri message (s.addLog level record)).2) :=
    fun _ _ _ => Leads.refl.step.step.step
  have hact : (Piece.explore task).act answer s = outcome task.uri s answer.result := rfl
  cases hresult : answer.result with
  | ok blocks =>
      rw [hresult] at hact
      refine (leads_of_act hact).trans ?_
      simp only [settle, Act.modify_bind_apply, note_bind_apply]
      refine Leads.trans (b := (.refresh :: [.collect task.uri, .release task.uri], _))
        Leads.refl.step.step ?_
      cases hrefresh : (refresh answer.refusal ((s.store task.uri blocks []).addLog .info
          ("Cache updated for " ++ task.uri ++ " with " ++ Text.natText blocks.length ++
            " blocks (total time: 0ms)"))).1 with
      | ok _ =>
          refine (leads_refresh_ok hrefresh).trans ?_
          rw [Act.bind_apply, Act.bind_ok _ (Prod.ext hrefresh rfl)]
          exact leads_collect task.uri _
      | error failure =>
          rw [Act.bind_apply, Act.bind_error _ (Prod.ext hrefresh rfl)]
          exact leads_refresh_error hrefresh
  | error fault =>
      rw [hresult] at hact
      cases fault with
      | stopped => exact (leads_of_act hact).trans (hreported _ _ _)
      | exited code errors => exact (leads_of_act hact).trans (hreported _ _ _)
      | raised failure =>
          rw [settle]
          by_cases hordinary : failure.isOrdinary = true
          · rw [settleFailure_of_isOrdinary task.uri hordinary]
            rw [outcome, if_pos hordinary] at hact
            exact (leads_of_act hact).trans (hreported _ _ _)
          · rw [outcome, if_neg hordinary] at hact
            rw [settleFailure_of_not_isOrdinary task.uri (by simpa using hordinary)]
            exact leads_of_act_error hact

/-- The latest text of a document is run. -/
theorem leads_reread (uri : String) (s : Session) :
    Leads answer ([.reread uri], s) ([], (rerun uri s).2) := by
  simp only [rerun, Act.look_bind_apply]
  cases htext : s.latestText? uri with
  | none =>
      have hact : (Piece.reread uri).act answer s = (.ok [], s) := by
        simp [Piece.act, htext]
      exact leads_of_act hact
  | some text =>
      simp only [note_bind_apply]
      cases hpath : Uri.filePath uri with
      | error failure =>
          have hact : (Piece.reread uri).act answer s =
              (.error failure, s.addLog .debug ("Exploring queued edits for " ++ uri)) := by
            simp [Piece.act, htext, hpath]
          exact leads_of_act_error hact
      | ok path =>
          have hact : (Piece.reread uri).act answer s = (.ok [.ask text path uri],
              s.addLog .debug ("Exploring queued edits for " ++ uri)) := by
            simp [Piece.act, htext, hpath]
          exact (leads_of_act hact).trans (leads_ask text path uri _)

/-- A document is released and run again if it was marked. -/
theorem leads_release (uri : String) (s : Session) :
    Leads answer ([.release uri], s) ([], (finish uri s).2) := by
  have hact : (Piece.release uri).act answer s =
      (.ok (if s.isPending uri then [.reread uri] else []), s.release uri) := rfl
  refine (leads_of_act hact).trans ?_
  simp only [finish, Act.look_bind_apply, Act.modify_bind_apply]
  split
  · exact leads_reread uri _
  · exact Leads.refl

/-- **A worker that is left alone handles the end of a process as a whole.** -/
theorem leads_conclude (task : Task) (s : Session) :
    Leads answer ([.explore task, .release task.uri], s)
      ([], (conclude task.uri answer.refusal answer.result s).2) := by
  rw [conclude, Act.always_snd]
  exact (leads_settle task s).trans (leads_release task.uri _)

end Leads

end JitExplorer.Session
