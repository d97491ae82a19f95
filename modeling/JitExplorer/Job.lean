/-
**Jobs.**

A job works at a bench: the state of the compiler, the host, the files, the number of modules that
were loaded so far, the progress text, and the log.  Whether it succeeds or fails, it leaves the
bench behind.  Progress is not written to a file, and whatever receives it takes it.

Main definitions:

* `Bench` — what a job works on;
* `Job` — jobs, with `Job.ask`, `Job.log`, `Job.say` and `Job.onFiles`.
-/

import JitExplorer.Act
import JitExplorer.Host
import JitExplorer.Log
import JitExplorer.Toolchain

set_option autoImplicit false

namespace JitExplorer

/-- What a job works on. -/
structure Bench (σ : Type) where
  compiler : σ
  host : Host := {}
  files : FileTree := {}
  loads : Nat := 0
  progress : String := ""
  log : List Log.Entry := []

/-- An act at a bench. -/
abbrev Job (σ α : Type) : Type :=
  Act (Bench σ) α

namespace Job

variable {σ α : Type}

/-- The job that logs. -/
def log (level : Log.Level) (message : String) : Job σ Unit :=
  Act.modify fun bench => { bench with log := bench.log ++ [{ level, message }] }

/-- The job that reports progress. -/
def say (line : String) : Job σ Unit :=
  Act.modify fun bench => { bench with progress := bench.progress ++ line ++ "\n" }

/-- The job that reports progress if it is wanted. -/
def sayIf (verbose : Bool) (line : String) : Job σ Unit :=
  if verbose then say line else pure ()

/-- The job that works on the files of the host. -/
def onFiles (work : Host → FileTree → Except Failure α × FileTree) : Job σ α := fun bench =>
  let (result, files) := work bench.host bench.files
  (result, { bench with files })

/-- The job that asks the compiler. -/
def ask (question : σ → Answer σ α) : Job σ α := fun bench =>
  let answer := question bench.compiler
  (answer.result, { bench with compiler := answer.state, log := bench.log ++ answer.log })

end Job

end JitExplorer
