/-
**Running the explorer as a process.**

The editor's server runs the explorer in a process of its own, on a copy of the document's text, in
the directory of the document.  The process ends with an exit code, or is stopped because it takes
too long, or cannot be run at all.  If it ends well, its output file is read: as UTF-8, with any
line end turned into a newline.

Main definitions:

* `Invocation`, `Invocation.command`, `Invocation.searchPath` — how the process is started;
* `Invocation.Outcome` — what the process did;
* `Invocation.Fault`, `Invocation.result` — the blocks that it wrote, or why there are none.
-/

import JitExplorer.Datum
import JitExplorer.FilePath
import JitExplorer.Framing
import JitExplorer.Text.Utf8

set_option autoImplicit false

namespace JitExplorer

/-- How the explorer is started as a process: the text of the document, its path, the interpreter
and the stage. -/
structure Invocation where
  text : String
  scriptPath : String
  interpreter : Datum
  stage : String
  deriving DecidableEq, Repr

namespace Invocation

/-- The seconds that the process may take. -/
def timeout : Nat := 30

/-- The module that is run. -/
def moduleName : String := "numba_explorer"

/-- The start of the name of the temporary directory. -/
def temporaryStart : String := "numba-explorer-"

/-- What the interpreter is told, with its files in a temporary directory. -/
def words (temporary : String) (invocation : Invocation) : List String :=
  ["-m", moduleName, temporary ++ "/input.py", temporary ++ "/output.txt",
    "--format=" ++ invocation.stage]

/-- The command: the interpreter as it was named, and what it is told. -/
def command (temporary : String) (invocation : Invocation) : List Datum :=
  invocation.interpreter :: (invocation.words temporary).map Datum.text

/-- The directory that the process runs in. -/
def directory (invocation : Invocation) : String :=
  FilePath.parentText invocation.scriptPath

/-- Where the process looks for modules: in its directory, and where it would have looked anyway. -/
def searchPath (inherited : Option String) (invocation : Invocation) : String :=
  Text.join ":" ([invocation.directory, inherited.getD ""].filter fun path => !path.isEmpty)

/-- How a process ended. -/
inductive End where
  /-- It ended with an exit code and a text on its error stream, if that was captured. -/
  | exited (code : Int) (errors : Option String)
  /-- It was stopped because it took too long. -/
  | stopped
  /-- Running it raised something. -/
  | raised (failure : Failure)
  deriving DecidableEq, Repr

/-- What a process did: the bytes of its output file, and how it ended. -/
structure Outcome where
  output : List Nat := []
  ending : End := .exited 0 none
  deriving DecidableEq, Repr

/-- Why there are no blocks. -/
inductive Fault where
  | exited (code : Int) (errors : Option String)
  | stopped
  | raised (failure : Failure)
  deriving DecidableEq, Repr

/-- The blocks of an output file, or the failure of reading it. -/
def readOutput (bytes : List Nat) : Except Failure (List Block) :=
  match Text.Utf8.decode bytes with
  | .error fault => .error (.ordinary "UnicodeDecodeError" fault.message)
  | .ok s =>
      match Framing.read (String.ofList (Text.unifyNewlines s)) with
      | .ok blocks => .ok blocks
      | .error fault => .error fault.toFailure

/-- **The blocks that a process wrote, or why there are none.** -/
def result (outcome : Outcome) : Except Fault (List Block) :=
  match outcome.ending with
  | .stopped => .error .stopped
  | .raised failure => .error (.raised failure)
  | .exited code errors =>
      if code = 0 then
        match readOutput outcome.output with
        | .ok blocks => .ok blocks
        | .error failure => .error (.raised failure)
      else .error (.exited code errors)

end Invocation

end JitExplorer
