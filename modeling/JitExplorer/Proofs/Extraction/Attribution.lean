/-
**What an extraction asks for, and what it answers.**

Extracting a stage of a specialization takes one call of the toolchain, or two: for the stages of a
whole module and of native code it is first asked whether it supports more debug information.  The
pieces of text that it writes become the output, and its failure becomes the failure of the
extraction.  The explorer's own errors and the failures that nothing may handle stay as they are;
any other failure is attributed to the specialization and the stage.  A format that names no stage
is refused without a call.

Main definitions:

* `Extraction.calls` — the calls of an extraction, in order;
* `Extraction.Course` — the calls that a toolchain gets, the pieces that it writes, and how it ends;
* `Extraction.IsOutputOf`, `Extraction.IsAttributed` — the output of pieces of text, and a fault
  that says what was raised and where;
* `Extraction.Outcome` — what an extraction answers.

Main results:

* `Extraction.agree_extractFormat_recorded` — an extraction by the recorder does what one by the
  toolchain does;
* `Extraction.exists_course` — every extraction takes a course;
* `Extraction.Course.calls_eq`, `Extraction.Course.outcome` — the course decides the calls and the
  answer;
* `Extraction.extract_follows_course` — **a consistent output, or one failure that is well
  attributed**.
-/

import JitExplorer.Proofs.Pipeline.Calls
import JitExplorer.Toolchain.Script
import Mathlib.Data.List.Infix

set_option autoImplicit false

namespace JitExplorer

variable {σ : Type}

/-- More debug information may be asked for the stages of a whole module and of native code. -/
theorem Stage.takesElevation_iff (stage : Stage) :
    stage.takesElevation = true ↔ stage = .llvmModule ∨ stage = .native := by
  cases stage <;> simp [takesElevation]

namespace Extraction

open Toolchain (Event)

/-! ### Calls -/

/-- **The calls of an extraction,** in order. -/
def calls (toolchain : Toolchain σ) (s : Specialization) (format : Datum) (options : StageOptions)
    (bench : Bench σ) : List Event :=
  (extractFormat toolchain.recorded s format options bench.recording).2.compiler.2

/-- An extraction by the recorder does what an extraction by the toolchain does. -/
theorem agree_extractFormat_recorded (toolchain : Toolchain σ) (s : Specialization)
    (format : Datum) (options : StageOptions) :
    Job.Agree (fun c s => c.1 = s) (extractFormat toolchain.recorded s format options)
      (extractFormat toolchain s format options) :=
  agree_extractFormat toolchain.agree_recorded s format options

/-- What the recorder keeps of the question whether more debug information is supported. -/
theorem compiler_ask_recorded (toolchain : Toolchain σ) (bench : Bench σ) :
    (Job.ask toolchain.recorded.supportsCodegenParams bench.recording).2.compiler =
      ((toolchain.supportsCodegenParams bench.compiler).state,
        [⟨.supportsCodegenParams,
          failureOf? (toolchain.supportsCodegenParams bench.compiler).result⟩]) := rfl

/-- What the recorder keeps of a stage that is written. -/
theorem compiler_written_recorded (toolchain : Toolchain σ) (s : Specialization) (stage : Stage)
    (options : StageOptions) (bench : Bench (σ × List Event)) :
    (written toolchain.recorded s stage options bench).2.compiler =
      ((toolchain.emit stage s options bench.compiler.1).state,
        bench.compiler.2 ++ [⟨.emit stage s options,
          failureOf? (toolchain.emit stage s options bench.compiler.1).result⟩]) := rfl

/-! ### Courses -/

/-- **The course of an extraction:** the calls that the toolchain gets, the pieces of text that it
writes, and how it ends. -/
inductive Course (toolchain : Toolchain σ) (s : Specialization) (options : StageOptions) (c : σ)
    (stage : Stage) : List Event → List String → Except Failure Unit → Prop where
  /-- The other stages are asked for at once, with the settings that were given. -/
  | direct {emission : Emission σ} : stage ≠ .llvmModule → stage ≠ .native →
      toolchain.emit stage s options c = emission →
      Course toolchain s options c stage
        [⟨.emit stage s options, failureOf? emission.result⟩] emission.written emission.result
  /-- Asking whether more debug information is supported may fail. -/
  | refused {failure : Failure} : stage = .llvmModule ∨ stage = .native →
      (toolchain.supportsCodegenParams c).result = .error failure →
      Course toolchain s options c stage [⟨.supportsCodegenParams, some failure⟩] [] (.error failure)
  /-- If it is supported, the debug information of the source is asked for. -/
  | elevated {emission : Emission σ} : stage = .llvmModule ∨ stage = .native →
      (toolchain.supportsCodegenParams c).result = .ok true →
      toolchain.emit stage s { options with debugInfo := .source }
        (toolchain.supportsCodegenParams c).state = emission →
      Course toolchain s options c stage
        [⟨.supportsCodegenParams, none⟩,
          ⟨.emit stage s { options with debugInfo := .source }, failureOf? emission.result⟩]
        emission.written emission.result
  /-- If it is not supported, the settings stay as they were given. -/
  | plain {emission : Emission σ} : stage = .llvmModule ∨ stage = .native →
      (toolchain.supportsCodegenParams c).result = .ok false →
      toolchain.emit stage s options (toolchain.supportsCodegenParams c).state = emission →
      Course toolchain s options c stage
        [⟨.supportsCodegenParams, none⟩, ⟨.emit stage s options, failureOf? emission.result⟩]
        emission.written emission.result

/-- Every extraction takes a course. -/
theorem exists_course (toolchain : Toolchain σ) (s : Specialization) (options : StageOptions)
    (c : σ) (stage : Stage) :
    ∃ events pieces result, Course toolchain s options c stage events pieces result := by
  by_cases hstage : stage = .llvmModule ∨ stage = .native
  · cases hquery : (toolchain.supportsCodegenParams c).result with
    | error failure => exact ⟨_, _, _, .refused hstage hquery⟩
    | ok supported =>
        cases supported with
        | true => exact ⟨_, _, _, .elevated hstage hquery rfl⟩
        | false => exact ⟨_, _, _, .plain hstage hquery rfl⟩
  · obtain ⟨hmodule, hnative⟩ := not_or.1 hstage
    exact ⟨_, _, _, .direct hmodule hnative rfl⟩

/-! ### The text of a stage -/

/-- The job by which an extraction gets the text of a stage. -/
def textJob (toolchain : Toolchain σ) (s : Specialization) (stage : Stage)
    (options : StageOptions) : Job σ String := do
  let options ← settings toolchain stage options
  written toolchain s stage options

section Text

variable (toolchain : Toolchain σ) (s : Specialization) (options : StageOptions) {stage : Stage}

theorem textJob_direct (hmodule : stage ≠ .llvmModule) (hnative : stage ≠ .native) :
    textJob toolchain s stage options = written toolchain s stage options := by
  have hstage : ¬ stage.takesElevation = true := by
    rw [Stage.takesElevation_iff, not_or]
    exact ⟨hmodule, hnative⟩
  rw [textJob, settings, if_neg hstage, Act.pure_bind]

theorem textJob_queried (hstage : stage = .llvmModule ∨ stage = .native) :
    textJob toolchain s stage options =
      Job.ask toolchain.supportsCodegenParams >>= fun supported =>
        written toolchain s stage
          (if supported then { options with debugInfo := .source } else options) := by
  rw [textJob, settings, if_pos ((Stage.takesElevation_iff stage).2 hstage), Act.bind_assoc]
  rfl

theorem textJob_of_error (bench : Bench σ) (hstage : stage = .llvmModule ∨ stage = .native)
    {failure : Failure}
    (hquery : (toolchain.supportsCodegenParams bench.compiler).result = .error failure) :
    textJob toolchain s stage options bench =
      (.error failure, (Job.ask toolchain.supportsCodegenParams bench).2) := by
  rw [textJob_queried toolchain s options hstage, Act.bind_apply]
  exact Act.bind_error _ (Prod.ext hquery rfl)

theorem textJob_of_ok (bench : Bench σ) (hstage : stage = .llvmModule ∨ stage = .native)
    {supported : Bool}
    (hquery : (toolchain.supportsCodegenParams bench.compiler).result = .ok supported) :
    textJob toolchain s stage options bench =
      written toolchain s stage
        (if supported then { options with debugInfo := .source } else options)
        (Job.ask toolchain.supportsCodegenParams bench).2 := by
  rw [textJob_queried toolchain s options hstage, Act.bind_apply]
  exact Act.bind_ok _ (Prod.ext hquery rfl)

end Text

/-! ### An extraction around its text -/

section Around

variable (toolchain : Toolchain σ) (s : Specialization) (options : StageOptions)

/-- An extraction answers with the output of the text, or with the failure as it is ascribed. -/
theorem extract_fst (stage : Stage) (bench : Bench σ) :
    (extract toolchain s stage options bench).1 =
      ((textJob toolchain s stage options bench).1.mapError (ascribe s stage)).map
        StageOutput.ofText := by
  have hascribed := ascribed_apply s stage (textJob toolchain s stage options) bench
  change (Act.bind (ascribed s stage (textJob toolchain s stage options)) _ bench).1 = _
  rw [Act.bind, hascribed]
  rcases textJob toolchain s stage options bench with ⟨_ | _, after⟩ <;> rfl

/-- Nothing but the text is asked of the compiler. -/
theorem extract_compiler (stage : Stage) (bench : Bench σ) :
    (extract toolchain s stage options bench).2.compiler =
      (textJob toolchain s stage options bench).2.compiler := by
  have hascribed := ascribed_apply s stage (textJob toolchain s stage options) bench
  change (Act.bind (ascribed s stage (textJob toolchain s stage options)) _ bench).2.compiler = _
  rw [Act.bind, hascribed]
  rcases textJob toolchain s stage options bench with ⟨_ | _, after⟩ <;> rfl

/-- The spelling of a stage stands for the stage. -/
theorem extractFormat_text (stage : Stage) :
    extractFormat toolchain s (.text stage.text) options = extract toolchain s stage options := by
  have hstage : stageOf (.text stage.text) = .ok stage := by
    simp only [stageOf, Datum.text?, Option.bind_some, Stage.ofText?_text]
  rw [extractFormat, hstage]
  rfl

/-- A format that names no stage is refused at once. -/
theorem extractFormat_unknown {format : Datum} (h : ∀ stage : Stage, format ≠ .text stage.text)
    (bench : Bench σ) :
    extractFormat toolchain s format options bench =
      (.error (.explorer (.extraction (.unknownFormat format))), bench) := by
  have hstage : stageOf format = .error (.explorer (.extraction (.unknownFormat format))) := by
    cases format with
    | text t =>
        have hnone : Stage.ofText? t = none := by
          refine Option.eq_none_iff_forall_ne_some.2 fun stage hstage => h stage ?_
          rw [(Stage.ofText?_eq_some_iff t stage).1 hstage]
        simp only [stageOf, Datum.text?, Option.bind_some, hnone]
    | _ => rfl
  rw [extractFormat, hstage]
  rfl

end Around

/-! ### Outcomes -/

/-- The output of pieces of text: all of them one after another, ended by a newline, which is added
if it is missing; and the number of newlines in that. -/
structure IsOutputOf (pieces : List String) (output : StageOutput) : Prop where
  text : output.text.toList = pieces.flatMap String.toList ++
    if ['\n'] <:+ pieces.flatMap String.toList then [] else ['\n']
  lineCount : output.lineCount = (output.text.toList.count '\n' : Nat)

/-- A fault that says what was raised, and for which specialization and stage. -/
structure IsAttributed (s : Specialization) (stage : Stage) (raised : Raised)
    (fault : ExtractionFault) : Prop where
  cause : fault.cause? = some raised
  name : fault.name? = some s.callable.name
  argTypes : fault.argTypes = s.argTypes
  message : fault.message = stage.text ++ " failed for " ++ s.callable.name ++
    "(" ++ Text.join ", " s.argTypes ++ "): " ++ raised.kind ++ ": " ++ raised.text
  stage : fault.stage? = some (.text stage.text)

/-- **What an extraction answers,** from the pieces that the toolchain wrote and how it ended. -/
inductive Outcome (s : Specialization) (stage : Stage) (pieces : List String) :
    Except Failure Unit → Except Failure StageOutput → Prop where
  | output {output : StageOutput} : IsOutputOf pieces output →
      Outcome s stage pieces (.ok ()) (.ok output)
  | own (error : ExplorerError) :
      Outcome s stage pieces (.error (.explorer error)) (.error (.explorer error))
  | attributed {raised : Raised} {fault : ExtractionFault} :
      (Failure.foreign raised).isOrdinary = true → IsAttributed s stage raised fault →
      Outcome s stage pieces (.error (.foreign raised)) (.error (.explorer (.extraction fault)))
  | escaping {raised : Raised} : (Failure.foreign raised).isOrdinary = false →
      Outcome s stage pieces (.error (.foreign raised)) (.error (.foreign raised))

/-- A newline is added exactly if the text does not end with one. -/
theorem endWithNewline_eq (s : List Char) :
    endWithNewline s = s ++ if ['\n'] <:+ s then [] else ['\n'] := by
  have hends : s.getLast? = some '\n' ↔ ['\n'] <:+ s := by
    rw [List.getLast?_eq_some_iff]
    exact ⟨fun ⟨front, h⟩ => ⟨front, h.symm⟩, fun ⟨front, h⟩ => ⟨front, h.symm⟩⟩
  by_cases h : ['\n'] <:+ s
  · rw [endWithNewline, if_pos (hends.2 h), if_pos h, List.append_nil]
  · rw [endWithNewline, if_neg (mt hends.1 h), if_neg h]

theorem isOutputOf_ofText (pieces : List String) :
    IsOutputOf pieces (.ofText (Text.join "" pieces)) where
  text := by
    rw [StageOutput.ofText_text, String.toList_ofList, Text.toList_join, String.toList_empty,
      Text.joinWith_empty, ← List.flatMap_def, endWithNewline_eq]
  lineCount := by
    rw [StageOutput.ofText_lineCount, StageOutput.ofText_text, String.toList_ofList]

theorem isAttributed_raised (s : Specialization) (stage : Stage) (raised : Raised) :
    IsAttributed s stage raised (.raised stage s.callable.name s.argTypes raised) where
  cause := rfl
  name := rfl
  argTypes := rfl
  message := by
    have hclose (t : String) : ")" ++ (": " ++ t) = "): " ++ t := by
      rw [← String.append_assoc, show ")" ++ ": " = "): " by decide]
    rw [ExtractionFault.message_raised, argTypesText, Raised.described]
    simp only [String.append_assoc, hclose]
  stage := rfl

/-- What a toolchain wrote and raised is answered like this. -/
theorem outcome_of_result (s : Specialization) (stage : Stage) (pieces : List String)
    (result : Except Failure Unit) :
    Outcome s stage pieces result
      (((result.map fun _ => Text.join "" pieces).mapError (ascribe s stage)).map
        StageOutput.ofText) := by
  cases result with
  | ok => exact .output (isOutputOf_ofText pieces)
  | error failure =>
      cases failure with
      | explorer error => exact .own error
      | foreign raised =>
          change Outcome s stage pieces _ (.error (ascribe s stage (.foreign raised)))
          cases hraised : (Failure.foreign raised).isOrdinary with
          | true =>
              rw [ascribe, if_pos hraised]
              exact .attributed hraised (isAttributed_raised s stage raised)
          | false =>
              rw [ascribe, if_neg (Bool.eq_false_iff.1 hraised)]
              exact .escaping hraised

/-! ### The course decides -/

section Decides

variable {toolchain : Toolchain σ} {s : Specialization} {options : StageOptions} {bench : Bench σ}
  {stage : Stage} {events : List Event} {pieces : List String} {result : Except Failure Unit}

/-- The text of a stage is what was written on the course. -/
theorem Course.textJob_fst
    (h : Course toolchain s options bench.compiler stage events pieces result) :
    (textJob toolchain s stage options bench).1 = result.map fun _ => Text.join "" pieces := by
  cases h with
  | direct hmodule hnative hemit =>
      subst hemit
      rw [textJob_direct toolchain s options hmodule hnative]
      rfl
  | refused hstage hquery =>
      rw [textJob_of_error toolchain s options bench hstage hquery]
      rfl
  | elevated hstage hquery hemit =>
      subst hemit
      rw [textJob_of_ok toolchain s options bench hstage hquery]
      rfl
  | plain hstage hquery hemit =>
      subst hemit
      rw [textJob_of_ok toolchain s options bench hstage hquery]
      rfl

/-- The calls of an extraction are those of its course. -/
theorem Course.calls_eq
    (h : Course toolchain s options bench.compiler stage events pieces result) :
    calls toolchain s (.text stage.text) options bench = events := by
  rw [calls, extractFormat_text, extract_compiler]
  cases h with
  | direct hmodule hnative hemit =>
      subst hemit
      rw [textJob_direct toolchain.recorded s options hmodule hnative]
      rfl
  | refused hstage hquery =>
      rw [textJob_of_error toolchain.recorded s options bench.recording hstage hquery,
        compiler_ask_recorded, hquery]
      rfl
  | elevated hstage hquery hemit =>
      subst hemit
      rw [textJob_of_ok toolchain.recorded s options bench.recording hstage hquery,
        compiler_written_recorded, compiler_ask_recorded, hquery]
      rfl
  | plain hstage hquery hemit =>
      subst hemit
      rw [textJob_of_ok toolchain.recorded s options bench.recording hstage hquery,
        compiler_written_recorded, compiler_ask_recorded, hquery]
      rfl

/-- An extraction answers for its course. -/
theorem Course.outcome
    (h : Course toolchain s options bench.compiler stage events pieces result) :
    Outcome s stage pieces result (extract toolchain s stage options bench).1 := by
  rw [extract_fst, h.textJob_fst]
  exact outcome_of_result s stage pieces result

end Decides

/-- **An extraction yields a consistent output, or one failure that is well attributed.**  A format
that names no stage is refused before any call of the toolchain.  Otherwise the extraction takes a
course: the toolchain gets the calls of it, and the answer is the output of what was written or the
failure, which is attributed unless it is one of the explorer's own or nothing may handle it. -/
theorem extract_follows_course (toolchain : Toolchain σ) (s : Specialization)
    (options : StageOptions) (bench : Bench σ) :
    (∀ format : Datum, (∀ stage : Stage, format ≠ .text stage.text) →
      calls toolchain s format options bench = [] ∧
      ∃ fault, extractFormat toolchain s format options bench =
        (.error (.explorer (.extraction fault)), bench) ∧ fault.stage? = some format) ∧
    ∀ stage : Stage,
      extractFormat toolchain s (.text stage.text) options = extract toolchain s stage options ∧
      ∃ events pieces result,
        Course toolchain s options bench.compiler stage events pieces result ∧
        calls toolchain s (.text stage.text) options bench = events ∧
        Outcome s stage pieces result (extract toolchain s stage options bench).1 := by
  refine ⟨fun format hformat => ⟨?_, .unknownFormat format, ?_, rfl⟩, fun stage => ⟨?_, ?_⟩⟩
  · rw [calls, extractFormat_unknown toolchain.recorded s options hformat]
    rfl
  · exact extractFormat_unknown toolchain s options hformat bench
  · exact extractFormat_text toolchain s options stage
  · obtain ⟨events, pieces, result, hcourse⟩ :=
      exists_course toolchain s options bench.compiler stage
    exact ⟨events, pieces, result, hcourse, hcourse.calls_eq, hcourse.outcome⟩

/-- A script that supports more debug information, and raises after some native code was written. -/
def tornScript : Script where
  codegenParams := some true
  bindings := [("f", .callable { definitions := [{
    line := 4
    items := .lone (some {
      argTypes := .ok ["int32", "Tuple(a, b)"]
      texts := [(.native, "mov")]
      faults := [(.native, .ordinary "KeyError" "k")] }) }] })]

/-- The specialization of that script. -/
def tornItem : Specialization where
  callable := ⟨"f", [0]⟩
  argTypes := ["int32", "Tuple(a, b)"]
  method := ⟨⟨"f", [0]⟩, 4, [0, 0]⟩
  object := [0, 0, 0]

/-- An unknown format is refused without a call; native code takes two calls, and what is raised is
attributed. -/
theorem extract_follows_course_tornScript :
    (∀ stage : Stage, Datum.text "asm" ≠ .text stage.text) ∧
    calls Script.toolchain tornItem (.text "asm") {} { compiler := tornScript } = [] ∧
    (∃ fault, extractFormat Script.toolchain tornItem (.text "asm") {} { compiler := tornScript } =
      (.error (.explorer (.extraction fault)), { compiler := tornScript }) ∧
      fault.stage? = some (.text "asm")) ∧
    calls Script.toolchain tornItem (.text "native") {} { compiler := tornScript } =
      [⟨.supportsCodegenParams, none⟩,
        ⟨.emit .native tornItem { debugInfo := .source }, some (.ordinary "KeyError" "k")⟩] ∧
    ∃ fault, (extract Script.toolchain tornItem .native {} { compiler := tornScript }).1 =
        .error (.explorer (.extraction fault)) ∧
      fault.message = "native failed for f(int32, Tuple(a, b)): KeyError: k" := by
  have hasm : ∀ stage : Stage, Datum.text "asm" ≠ .text stage.text := by
    intro stage
    cases stage <;> decide
  obtain ⟨hunknown, hstage⟩ :=
    extract_follows_course Script.toolchain tornItem {} { compiler := tornScript }
  obtain ⟨hnone, hrefused⟩ := hunknown _ hasm
  obtain ⟨-, events, pieces, result, hcourse, hcalls, houtcome⟩ := hstage .native
  refine ⟨hasm, hnone, hrefused, ?_⟩
  cases hcourse with
  | direct hmodule hnative => exact absurd rfl hnative
  | refused _ hquery => cases hquery
  | plain _ hquery => cases hquery
  | elevated _ _ hemit =>
      subst hemit
      refine ⟨hcalls, ?_⟩
      generalize (extract Script.toolchain tornItem .native {} { compiler := tornScript }).1 =
        answer at houtcome ⊢
      cases houtcome with
      | attributed _ hfault => exact ⟨_, rfl, hfault.message⟩
      | escaping hraised => cases hraised

end Extraction

end JitExplorer
