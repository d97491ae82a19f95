/-
**The state of the editor's server.**

The server knows the open documents, and keeps for each document the blocks of its last run and the
diagnostics that are shown for it.  At most one run of a document is under way; a document that
changes meanwhile is marked and run again afterwards.  Runs wait in a queue.

Documents are listed by the keys that the editor's library makes of their URIs.  Everything else is
kept under the URI as the editor writes it.

Main definitions:

* `Diagnostic` — an error that is shown over a whole document;
* `Session.Task`, `Session.Notice` — runs, and what the editor is told;
* `Session` — the state of the server;
* `Session.store`, `Session.publish`, `Session.note` — the steps that everything is made of.

Main results:

* `Session.store_blocks_self`, `Session.store_diagnostics_self` — what is kept after it was stored.
-/

import JitExplorer.Act
import JitExplorer.Editor
import JitExplorer.Invocation
import JitExplorer.Log
import JitExplorer.Table

set_option autoImplicit false

namespace JitExplorer

/-- An error that is shown over a whole document: a message, the severity of an error, who reports
it, and the range from the first place to the last one that an editor can have. -/
structure Diagnostic where
  message : String
  severity : Nat := 1
  source : String := "numba-explorer"
  range : List Nat := [0, 0, 2147483647, 2147483647]
  deriving DecidableEq, Repr

namespace Session

/-- A run of a document. -/
structure Task where
  uri : String
  invocation : Invocation
  deriving DecidableEq, Repr

/-- What the editor is told. -/
inductive Notice where
  /-- The diagnostics of a document. -/
  | diagnostics (uri : String) (diagnostics : List Diagnostic)
  /-- The hints are to be asked for again. -/
  | refresh
  deriving DecidableEq, Repr

end Session

/-- The state of the server. -/
structure Session where
  /-- The interpreter that runs the explorer, as the editor names it; an empty text is none. -/
  interpreter : Datum := .absent
  /-- The stage that is asked for, as the editor names it. -/
  stage : Datum := .text "native"
  documents : List Session.Document := []
  blocks : Table (List Block) := {}
  diagnostics : Table (List Diagnostic) := {}
  /-- A document has a run under way. -/
  running : Table Bool := {}
  /-- A document changed while it had a run under way. -/
  pending : Table Bool := {}
  queue : List Session.Task := []
  sent : List Session.Notice := []
  log : List Log.Entry := []

namespace Session

/-! ### Single steps -/

/-- A record is added to the log. -/
def addLog (level : Log.Level) (message : String) (s : Session) : Session :=
  { s with log := s.log ++ [{ level, message }] }

/-- The editor is told something. -/
def tell (notice : Notice) (s : Session) : Session :=
  { s with sent := s.sent ++ [notice] }

/-- Blocks and diagnostics of a document are kept. -/
def store (uri : String) (blocks : List Block) (diagnostics : List Diagnostic) (s : Session) :
    Session :=
  { s with blocks := s.blocks.set uri blocks, diagnostics := s.diagnostics.set uri diagnostics }

/-- The diagnostics that are kept for a document are published. -/
def publish (uri : String) (s : Session) : Session :=
  s.tell (.diagnostics uri ((s.diagnostics.get? uri).getD []))

/-- A document has a run under way. -/
def isRunning (uri : String) (s : Session) : Bool :=
  (s.running.get? uri).getD false

/-- An interpreter is configured. -/
def hasInterpreter (s : Session) : Bool :=
  s.interpreter.isOn

/-- The open document that is listed under a key. -/
def document? (s : Session) (key : String) : Option Document :=
  s.documents.find? fun document => document.uri == key

/-- The act that logs. -/
def note (level : Log.Level) (message : String) : Act Session Unit :=
  Act.modify (addLog level message)

@[simp] theorem store_blocks_self (uri : String) (blocks : List Block)
    (diagnostics : List Diagnostic) (s : Session) :
    (s.store uri blocks diagnostics).blocks.get? uri = some blocks := by
  simp [store]

@[simp] theorem store_diagnostics_self (uri : String) (blocks : List Block)
    (diagnostics : List Diagnostic) (s : Session) :
    (s.store uri blocks diagnostics).diagnostics.get? uri = some diagnostics := by
  simp [store]

end Session

end JitExplorer
