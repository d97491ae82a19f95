/-
**Extracting a stage.**

The toolchain is asked for one stage of one specialization.  For the stages of a whole module and of
native code, more debug information is asked for if the compiler supports that.  A failure of the
toolchain is ascribed to the specialization and the stage, unless it is an error of the explorer
or one that nothing may handle; these are passed on as they are.

Main definitions:

* `Extraction.settings` — the settings that are handed to the toolchain;
* `Extraction.ascribe` — a failure of the toolchain as the explorer reports it;
* `Extraction.extract`, `Extraction.extractFormat` — the stage text of a specialization.
-/

import JitExplorer.Job

set_option autoImplicit false

namespace JitExplorer

/-- The stages for which more debug information may be asked. -/
def Stage.takesElevation : Stage → Bool
  | .llvmModule => true
  | .native => true
  | _ => false

namespace Extraction

variable {σ : Type}

/-- The settings that are handed to the toolchain for a stage. -/
def settings (toolchain : Toolchain σ) (stage : Stage) (options : StageOptions) :
    Job σ StageOptions :=
  if stage.takesElevation then do
    let supported ← Job.ask toolchain.supportsCodegenParams
    pure (if supported then { options with debugInfo := .source } else options)
  else pure options

/-- The text that the toolchain writes for a stage. -/
def written (toolchain : Toolchain σ) (s : Specialization) (stage : Stage)
    (options : StageOptions) : Job σ String := fun bench =>
  let emission := toolchain.emit stage s options bench.compiler
  (emission.result.map fun _ => Text.join "" emission.written,
    { bench with compiler := emission.state, log := bench.log ++ emission.log })

/-- A failure of the toolchain as the explorer reports it. -/
def ascribe (s : Specialization) (stage : Stage) : Failure → Failure
  | .explorer error => .explorer error
  | .foreign raised =>
      if (Failure.foreign raised).isOrdinary then
        .explorer (.extraction (.raised stage s.callable.name s.argTypes raised))
      else .foreign raised

/-- A job whose failures are ascribed to a specialization and a stage. -/
def ascribed {α : Type} (s : Specialization) (stage : Stage) (job : Job σ α) : Job σ α :=
  fun bench =>
    match job bench with
    | (.ok a, bench) => (.ok a, bench)
    | (.error failure, bench) => (.error (ascribe s stage failure), bench)

/-- **The stage text of a specialization.** -/
def extract (toolchain : Toolchain σ) (s : Specialization) (stage : Stage)
    (options : StageOptions) : Job σ StageOutput := do
  let text ← ascribed s stage do
    let options ← settings toolchain stage options
    written toolchain s stage options
  let output := StageOutput.ofText text
  Job.log .debug
    (stage.text ++ " " ++ s.callable.name ++ ": " ++ Text.intText output.lineCount ++ " lines")
  pure output

/-- The stage that a format names. -/
def stageOf (format : Datum) : Except Failure Stage :=
  match format.text?.bind Stage.ofText? with
  | some stage => .ok stage
  | none => .error (.explorer (.extraction (.unknownFormat format)))

/-- The stage text of a specialization in a format that is given by its spelling. -/
def extractFormat (toolchain : Toolchain σ) (s : Specialization) (format : Datum)
    (options : StageOptions) : Job σ StageOutput := do
  let stage ← Act.ofExcept (stageOf format)
  extract toolchain s stage options

end Extraction

end JitExplorer
