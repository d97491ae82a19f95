/-
**A run.**

A run applies the settings, loads the source, enumerates the specializations, and only then opens
the output.  After that one specialization after the other is extracted and written, so the blocks
in front of a failing one stay in the file.  The output is closed in any case.

Main definitions:

* `Pipeline.entryOf` — a specialization and its stage text as they are written;
* `Pipeline.writeText`, `Pipeline.writeBlock` — a text and a block written behind what a file holds;
* `Pipeline.writeAll` — the specializations extracted and written one by one;
* `Pipeline.openOutput`, `Pipeline.closing` — the place of the output, emptied, and its closing;
* `Pipeline.generate` — a whole run, with the number of blocks that were written.
-/

import JitExplorer.CommandLine
import JitExplorer.Enumeration
import JitExplorer.Extraction
import JitExplorer.Framing
import JitExplorer.Loading

set_option autoImplicit false

namespace JitExplorer.Pipeline

variable {σ : Type}

/-- A specialization and its stage text as they are written. -/
def entryOf (s : Specialization) (output : StageOutput) : Framing.Entry where
  line := s.method.line
  name := s.callable.name
  argTypes := s.argTypes
  output := output

/-- A text is written behind what the file at a place holds, unless the device refuses it. -/
def writeText (place : Place) (text : String) : Job σ Unit :=
  Job.onFiles fun host files =>
    let before := files.contentAt place
    match host.device.writing before text with
    | none => (.ok (), files.write place (before ++ text))
    | some refusal =>
        (.error (.foreign refusal.raised), files.write place (refusal.cut (before ++ text)))

/-- An entry is written: header, stage text, empty line. -/
def writeBlock (place : Place) (entry : Framing.Entry) : Job σ Unit := do
  let header ← Act.ofExcept (Framing.formatHeader entry)
  writeText place header
  writeText place "\n"
  writeText place entry.output.text
  writeText place "\n"

/-- Specializations are extracted and written one by one. -/
def writeAll (toolchain : Toolchain σ) (arguments : Arguments) (place : Place) :
    List Specialization → Job σ Unit
  | [] => pure ()
  | s :: specializations => do
      let output ←
        Extraction.extractFormat toolchain s arguments.format arguments.stageOptions
      writeBlock place (entryOf s output)
      writeAll toolchain arguments place specializations

/-- The place of the output, emptied, or the refusal. -/
def openOutput (path : String) : Job σ Place :=
  Job.onFiles fun host files =>
    match files.target path with
    | .error refusal => (.error (refusal.toFailure path), files)
    | .ok place =>
        match host.device.opening path with
        | some raised => (.error (.foreign raised), files)
        | none => (.ok place, files.write place "")

/-- The file at a place is closed, unless the device refuses that. -/
def closeOutput (place : Place) : Job σ Unit :=
  Job.onFiles fun host files =>
    let content := files.contentAt place
    match host.device.closing content with
    | none => (.ok (), files)
    | some refusal => (.error (.foreign refusal.raised), files.write place (refusal.cut content))

/-- A job behind which the file at a place is closed, whether it succeeds or fails.  A refusal of
the closing comes first.  Nothing follows a job that does not come to an end. -/
def closing (place : Place) (job : Job σ Unit) : Job σ Unit := fun bench =>
  match job bench with
  | (.ok (), bench) => closeOutput place bench
  | (.error failure, bench) =>
      if failure.isEndless then (.error failure, bench)
      else ((closeOutput place >>= fun _ => Act.fail failure : Job σ Unit) bench)

/-- **A whole run.**  The answer is the number of blocks that were written. -/
def generate (toolchain : Toolchain σ) (arguments : Arguments) : Job σ Nat := do
  Job.ask (toolchain.configure arguments.stageOptions)
  let context ← Loading.load toolchain arguments.inputFile none
  let found ← Enumeration.enumerate toolchain arguments.verbose context
  let place ← openOutput arguments.outputPath
  closing place (writeAll toolchain arguments place found)
  Job.log .debug
    ("Wrote " ++ Text.natText found.length ++ " " ++ arguments.format.shown ++
      " blocks for " ++ context.path ++ " to " ++ arguments.outputPath)
  pure found.length

end JitExplorer.Pipeline
