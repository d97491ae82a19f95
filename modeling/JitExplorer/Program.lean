/-
**The program.**

The command line is read, and what it asks for is done.  Errors of the explorer and refusals of the
operating system are logged and end the program with exit code 1; the latter are taken for refusals
of the output.  Any other failure escapes.  The log goes to the error stream, at the level that the
command line selects.

Main definitions:

* `Program.Ending` — how the program ends;
* `Program.Report` — all that is seen of it;
* `Program.run` — the program.
-/

import JitExplorer.Log.Tree
import JitExplorer.Pipeline

set_option autoImplicit false

namespace JitExplorer.Program

variable {σ : Type}

/-- How the program ends. -/
inductive Ending where
  /-- It returns an exit code. -/
  | returned (code : Nat)
  /-- It asks to be ended with a status, which is an exit code or anything else. -/
  | exited (status : Datum)
  /-- Something escapes that it does not handle. -/
  | escaped (failure : Failure)
  deriving DecidableEq, Repr

/-- All that is seen of the program: how it ends, what it prints, what it logs, what it leaves. -/
structure Report (σ : Type) where
  ending : Ending
  printed : String
  loggers : Log.Tree
  bench : Bench σ

/-- The lines of the error stream. -/
def Report.errorText (report : Report σ) (stamp : String) : String :=
  Text.join "" (report.bench.log.map (report.loggers.written stamp Log.packagePath))

/-- The loggers that the program starts with: the handler of last resort writes warnings. -/
def freshLoggers : Log.Tree :=
  Log.Tree.start (some .warning)

/-- The message under which a failure is logged, if it is one that the program handles. -/
def message? (arguments : Arguments) : Failure → Option String
  | .explorer error => some error.message
  | .foreign raised =>
      if raised.nature = .system then
        some ("Cannot write " ++ arguments.outputPath ++ ": " ++ raised.text)
      else none

/-- How the program ends with a failure that it does not handle: a request to end it is one. -/
def escape (failure : Failure) : Ending :=
  match failure.toRaised.nature with
  | .exit status => .exited status
  | _ => .escaped failure

/-- How the program ends after a run, and the bench that it leaves. -/
def settle (arguments : Arguments) (result : Except Failure Nat) (bench : Bench σ) :
    Ending × Bench σ :=
  match result with
  | .ok _ => (.returned 0, bench)
  | .error failure =>
      match message? arguments failure with
      | some message =>
          (.returned 1, { bench with log := bench.log ++ [{ level := .error, message }] })
      | none => (escape failure, bench)

/-- **The program for a command line.** -/
def run (toolchain : Toolchain σ) (tokens : List String) (bench : Bench σ) : Report σ :=
  match CommandLine.parse tokens with
  | .error failure => { ending := escape failure, printed := "", loggers := freshLoggers, bench }
  | .ok request =>
      match request.continuation with
      | .exit code =>
          { ending := .exited (.number code), printed := request.printed, loggers := freshLoggers
            bench }
      | .refuse _ =>
          { ending := .returned 1, printed := request.printed, loggers := freshLoggers, bench }
      | .proceed arguments =>
          let (result, bench) := Pipeline.generate toolchain arguments bench
          let (ending, bench) := settle arguments result bench
          { ending, printed := bench.progress
            loggers := freshLoggers.setUp arguments.verbose, bench }

end JitExplorer.Program
