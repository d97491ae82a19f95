/-
**What the editor asks of the server.**

The editor opens, changes, saves and closes documents, names the interpreter, and asks for hints.
Only documents whose path ends like a source file are run.  Hints come from what is kept of the last
run; asking for them starts none.

Documents are put, taken out and found by the editor's library.  The text of one that is not open is
read when it is asked for, and what the reading gives is said by the moment at which it happens.

Main definitions:

* `Session.openDocument`, `Session.changeDocument`, `Session.saveDocument`,
  `Session.closeDocument` — what happens to documents;
* `Session.Options`, `Session.start` — the options that the editor starts with;
* `Session.changeInterpreter` — the interpreter changes or goes away;
* `Session.hints` — the hints of a range of lines.
-/

import JitExplorer.Session.Run

set_option autoImplicit false

namespace JitExplorer.Session

/-! ### Documents -/

/-- How the path of a source file ends. -/
def sourceEnding : String := ".py"

/-- A path is that of a source file. -/
def isSourcePath (path : String) : Bool :=
  Text.startsWith sourceEnding.toList.reverse path.toList.reverse

section Documents

variable [Editor]

/-- A document is looked up. -/
def findDocument (uri : String) : Act Session (Option Document) := do
  let documents ← Act.look Session.documents
  Act.ofExcept (Editor.find uri documents)

/-- The text of a document as it is now: the text of an open one, and otherwise what the reading of
the document gives. -/
def documentText (reading : Except Failure String) (uri : String) : Act Session String := do
  let document ← findDocument uri
  match document with
  | some document => pure document.text
  | none => Act.ofExcept reading

/-- A document changed in some way and is run if it is a source. -/
def documentChanged (event : String) (reading : Except Failure String) (uri : String) :
    Act Session Unit := do
  let path ← Act.ofExcept (Uri.filePath uri)
  if isSourcePath path then
    note .debug ("[Event: " ++ event ++ "] Running explorer: " ++ uri)
    let text ← documentText reading uri
    submit text path uri
  else pure ()

/-- The text of a document is replaced. -/
def replaceText (uri text : String) : Act Session Unit := do
  let documents ← Act.look Session.documents
  let documents ← Act.ofExcept (Editor.put uri text documents)
  Act.modify fun s => { s with documents }

/-- A document is opened. -/
def openDocument (uri text : String) : Act Session Unit := do
  replaceText uri text
  documentChanged "onDidOpen" (.ok text) uri

/-- A document is changed. -/
def changeDocument (uri text : String) : Act Session Unit := do
  replaceText uri text
  documentChanged "onDidChangeContent" (.ok text) uri

/-- A document is saved.  One that is not open is read. -/
def saveDocument (reading : Except Failure String) (uri : String) : Act Session Unit :=
  documentChanged "onDidSave" reading uri

/-- What is kept for a document is dropped. -/
def dropDocument (uri : String) (s : Session) : Session :=
  { s with
    blocks := s.blocks.erase uri
    diagnostics := s.diagnostics.erase uri
    pending := s.pending.erase uri }

/-- **A document is closed.** -/
def closeDocument (uri : String) : Act Session Unit := do
  -- The document is taken out by its key, and all that is kept for it by the URI itself.
  Act.modify fun s => { s with documents := Editor.remove uri s.documents }
  Act.modify (dropDocument uri)
  Act.modify (tell (.diagnostics uri []))

end Documents

/-! ### The interpreter -/

/-- The options that the editor starts with; they may be of any type, and an empty one is none. -/
structure Options where
  interpreter : Datum := .absent
  format : Datum := .absent
  deriving DecidableEq, Repr

/-- The interpreter is set if it is given. -/
def takeInterpreter (interpreter : Datum) : Act Session Unit :=
  if interpreter.isOn then do
    Act.modify fun s => { s with interpreter }
    note .info ("Python interpreter set to: " ++ interpreter.shown)
  else pure ()

/-- The stage is set if it is given. -/
def takeStage (stage : Datum) : Act Session Unit :=
  if stage.isOn then Act.modify fun s => { s with stage } else pure ()

/-- **The editor starts the server.** -/
def start (options : Options) : Act Session Unit := do
  note .info "LSP Server initializing..."
  takeInterpreter options.interpreter
  takeStage options.format
  let configured ← Act.look hasInterpreter
  if configured then pure ()
  else note .warning "No Python interpreter provided, hints will be disabled"

/-- The editor has started the server. -/
def started : Act Session Unit :=
  note .info "LSP Server initialized"

/-- All open sources among some documents are run. -/
def submitAll : List Document → Act Session Unit
  | [] => pure ()
  | document :: documents => do
      -- A document whose URI leads to no path ends the walk, and those behind it are not run.
      let path ← Act.ofExcept (Uri.filePath document.uri)
      if isSourcePath path then submit document.text path document.uri else pure ()
      submitAll documents

/-- Nothing is kept or shown for any document. -/
def clear (s : Session) : Session :=
  s.documents.foldl (fun s document => s.tell (.diagnostics document.uri []))
    { s with blocks := {}, diagnostics := {} }

/-- **The interpreter changes.**  With one, all open sources are run; without one, nothing is kept
or shown any more. -/
def changeInterpreter (refusal : Option Failure) (interpreter : Datum) : Act Session Unit := do
  let old ← Act.look Session.interpreter
  Act.modify fun s => { s with interpreter }
  note .info ("Python interpreter changed: " ++ old.shown ++ " -> " ++ interpreter.shown)
  let s ← Act.look id
  if s.hasInterpreter then submitAll s.documents
  else do
    Act.modify clear
    refresh refusal

/-! ### Hints -/

/-- The lines of a text as the hints count them. -/
def sourceLines (text : String) : List String :=
  (Text.pieces text.toList).map String.ofList

/-- **The hints of a range of lines of a document.** -/
def hints [Editor] (reading : Except Failure String) (uri : String) (first last : Int) :
    Act Session (List Hint) := do
  let _ ← findDocument uri
  let path ← Act.ofExcept (Uri.filePath uri)
  let s ← Act.look id
  match s.blocks.get? uri, isSourcePath path with
  | some (block :: blocks), true => do
      -- The text may have changed since the blocks were made.
      let text ← documentText reading uri
      Act.ofExcept
        (Hint.build Editor.places (sourceLines text) s.stage.shown (block :: blocks) first last)
  | _, _ => pure []

end JitExplorer.Session
