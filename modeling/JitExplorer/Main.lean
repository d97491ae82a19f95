/-
**The command.**

The command looks at the files that its arguments name, does what `Program.run` says, and writes the
output back.  No compiler is attached to it: a source binds nothing, so its output has no blocks.

Main definitions:

* `Command.filesFor` — what the file system holds at the paths of a run;
* `main` — the command.
-/

import JitExplorer.Program
import JitExplorer.Toolchain.Script

set_option autoImplicit false

namespace JitExplorer.Command

/-- What the file system holds at a path; the content of a file does not matter. -/
def nodeAt (path : String) : IO (Option FileNode) := do
  let full := (← IO.currentDir) / path
  if ← full.isDir then pure (some .directory)
  else if ← full.pathExists then pure (some (.source .finishes))
  else pure none

/-- A tree with what the file system holds at a path. -/
def withPath (tree : FileTree) (path : String) : IO FileTree := do
  match ← nodeAt path with
  | some node => pure (tree.put (FilePath.resolve tree.workingDirectory path) node)
  | none => pure tree

/-- What the file system holds at the paths of a run. -/
def filesFor (arguments : Arguments) : IO FileTree := do
  let directory := (← IO.currentDir).toString
  let tree : FileTree := { workingDirectory := FilePath.resolve [] directory }
  let tree ← withPath tree arguments.inputFile
  let tree ← withPath tree (FilePath.parentText arguments.outputPath)
  withPath tree arguments.outputPath

/-- The files that a command line needs. -/
def filesOf (tokens : List String) : IO FileTree :=
  match CommandLine.parse tokens with
  | .ok (.run arguments) => filesFor arguments
  | _ => pure {}

/-- The output of a run is written back if it was written at all. -/
def writeBack (tokens : List String) (files : FileTree) : IO Unit :=
  match CommandLine.parse tokens with
  | .ok (.run arguments) =>
      match files.fileAt? arguments.outputPath with
      | some (.text content) => IO.FS.writeFile arguments.outputPath content
      | _ => pure ()
  | _ => pure ()

/-- The exit code of a status; anything else than a number is printed and counts as 1. -/
def exitCode : Datum → IO UInt32
  | .absent => pure 0
  | .flag value => pure (if value then 1 else 0)
  | .number code => pure (UInt32.ofNat (code % 256).toNat)
  | status => do
      IO.eprintln status.shown
      pure 1

end JitExplorer.Command

open JitExplorer in
/-- The command: its exit code is that of the program, and 1 for a failure that escapes it. -/
def main (tokens : List String) : IO UInt32 := do
  let report := Program.run Script.toolchain tokens
    { compiler := {}, files := ← Command.filesOf tokens }
  Command.writeBack tokens report.bench.files
  IO.print report.printed
  IO.eprint (report.errorText ("[" ++ toString (← IO.monoMsNow) ++ "]"))
  match report.ending with
  | .returned code => pure (UInt32.ofNat code)
  | .exited status => Command.exitCode status
  | .escaped failure => do
      IO.eprintln (failure.kind ++ ": " ++ failure.text)
      pure 1
