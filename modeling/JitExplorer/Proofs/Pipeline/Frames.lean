/-
**What the parts of a run leave alone.**

Up to the opening of the output a run leaves all files alone, but for the bytecode of the source,
which the host may keep.  Extracting a stage leaves more alone: it asks the compiler and logs, and
neither its outcome nor what it does to the compiler depends on anything else at the bench.

Main definitions:

* `Job.KeepsFiles` — a job leaves the files alone, and the host;
* `Loading.CompilesOnly` — nothing happens to the files but that a source is compiled;
* `Job.AsksOnly` — a job only asks the compiler and logs;
* `Pipeline.enumerated`, `Pipeline.outputWritten` — the parts of a run up to the opening of the
  output and after it.

Main results:

* `Pipeline.compilesOnly_enumerated` — that part leaves all files alone but the bytecode;
* `Pipeline.generate_eq_bind` — a run consists of the two parts;
* `Extraction.asksOnly_extractFormat` — extracting only asks the compiler;
* `Extraction.exists_ofText_of_extractFormat` — what is extracted is the stage text of some text.
-/

import JitExplorer.Pipeline

set_option autoImplicit false

namespace JitExplorer

variable {σ α β : Type}

namespace Job

/-! ### Files that are left alone -/

/-- A job leaves the files alone, and the host. -/
def KeepsFiles (job : Job σ α) : Prop :=
  ∀ bench, (job bench).2.files = bench.files ∧ (job bench).2.host = bench.host

theorem keepsFiles_pure (a : α) : KeepsFiles (pure a : Job σ α) :=
  fun _ => ⟨rfl, rfl⟩

theorem keepsFiles_log (level : Log.Level) (message : String) :
    KeepsFiles (log level message : Job σ Unit) :=
  fun _ => ⟨rfl, rfl⟩

theorem keepsFiles_ask (question : σ → Answer σ α) : KeepsFiles (ask question) :=
  fun _ => ⟨rfl, rfl⟩

theorem keepsFiles_sayIf (verbose : Bool) (line : String) :
    KeepsFiles (sayIf verbose line : Job σ Unit) := by
  intro bench
  cases verbose with
  | false => exact ⟨rfl, rfl⟩
  | true => exact ⟨rfl, rfl⟩

theorem KeepsFiles.bind {job : Job σ α} {next : α → Job σ β} (h : KeepsFiles job)
    (hnext : ∀ a, KeepsFiles (next a)) : KeepsFiles (job >>= next) := by
  intro bench
  obtain ⟨hfiles, hhost⟩ := h bench
  rw [Act.bind_apply]
  cases hjob : job bench with
  | mk result after =>
      rw [hjob] at hfiles hhost
      cases result with
      | error failure =>
          rw [Act.bind_error next hjob]
          exact ⟨hfiles, hhost⟩
      | ok a =>
          obtain ⟨hlater, hlast⟩ := hnext a after
          rw [Act.bind_ok next hjob]
          exact ⟨hlater.trans hfiles, hlast.trans hhost⟩

/-! ### Jobs that only ask the compiler -/

/-- A job only asks the compiler and logs: at any bench it does what it does at a bench that holds
nothing but the compiler, and leaves the rest alone. -/
def AsksOnly (job : Job σ α) : Prop :=
  ∀ bench, job bench =
    ((job { compiler := bench.compiler }).1,
      { bench with
        compiler := (job { compiler := bench.compiler }).2.compiler
        log := bench.log ++ (job { compiler := bench.compiler }).2.log })

theorem asksOnly_pure (a : α) : AsksOnly (pure a : Job σ α) := by
  intro bench
  simp

theorem asksOnly_ofExcept (result : Except Failure α) :
    AsksOnly (Act.ofExcept result : Job σ α) := by
  intro bench
  simp [Act.ofExcept]

theorem asksOnly_log (level : Log.Level) (message : String) :
    AsksOnly (log level message : Job σ Unit) := by
  intro bench
  simp [log]

theorem asksOnly_ask (question : σ → Answer σ α) : AsksOnly (ask question) := by
  intro bench
  simp [ask]

theorem AsksOnly.bind {job : Job σ α} {next : α → Job σ β} (h : AsksOnly job)
    (hnext : ∀ a, AsksOnly (next a)) : AsksOnly (job >>= next) := by
  intro bench
  have hbench := h bench
  simp only [Act.bind_apply]
  cases hjob : job { compiler := bench.compiler } with
  | mk result after =>
      rw [hjob] at hbench
      cases result with
      | error failure => rw [Act.bind_error next hbench, Act.bind_error next hjob]
      | ok a =>
          rw [Act.bind_ok next hbench, Act.bind_ok next hjob, hnext a after, hnext a]
          simp [List.append_assoc]

end Job

namespace Extraction

variable (toolchain : Toolchain σ) (s : Specialization)

/-! ### Extracting a stage -/

theorem asksOnly_settings (stage : Stage) (options : StageOptions) :
    Job.AsksOnly (settings toolchain stage options) := by
  unfold settings
  split
  · exact (Job.asksOnly_ask _).bind fun _ => Job.asksOnly_pure _
  · exact Job.asksOnly_pure _

theorem asksOnly_written (stage : Stage) (options : StageOptions) :
    Job.AsksOnly (written toolchain s stage options) := by
  intro bench
  simp [written]

theorem asksOnly_ascribed {stage : Stage} {job : Job σ α} (h : Job.AsksOnly job) :
    Job.AsksOnly (ascribed s stage job) := by
  intro bench
  simp only [ascribed, h bench]
  rcases job { compiler := bench.compiler } with ⟨_ | _, after⟩
  · rfl
  · rfl

/-- **Extracting a stage only asks the compiler.** -/
theorem asksOnly_extractFormat (format : Datum) (options : StageOptions) :
    Job.AsksOnly (extractFormat toolchain s format options) := by
  refine (Job.asksOnly_ofExcept _).bind fun stage => ?_
  have htext : Job.AsksOnly (do
      let options ← settings toolchain stage options
      written toolchain s stage options) :=
    (asksOnly_settings toolchain stage options).bind fun options =>
      asksOnly_written toolchain s stage options
  exact (asksOnly_ascribed s htext).bind fun _ => (Job.asksOnly_log _ _).bind fun _ =>
    Job.asksOnly_pure _

/-- What is extracted is the stage text of some text. -/
theorem exists_ofText_of_extractFormat {format : Datum} {options : StageOptions}
    {bench after : Bench σ} {output : StageOutput}
    (h : extractFormat toolchain s format options bench = (.ok output, after)) :
    ∃ text, output = StageOutput.ofText text := by
  obtain ⟨stage, _, -, hextract⟩ := Act.exists_of_bind_ok h
  obtain ⟨text, _, -, hlogged⟩ := Act.exists_of_bind_ok hextract
  obtain ⟨_, _, -, houtput⟩ := Act.exists_of_bind_ok hlogged
  cases houtput
  exact ⟨text, rfl⟩

end Extraction

/-! ### Up to the opening of the output -/

namespace Loading

/-- Nothing happens to the files at a bench but that the source at a place may be compiled, whose
bytecode the host may keep. -/
def CompilesOnly (place : Place) (bench after : Bench σ) : Prop :=
  (after.files = bench.files ∨ after.files = bench.host.compiled bench.files place) ∧
    after.host = bench.host

/-- Executing a source leaves all files alone but its bytecode. -/
theorem compilesOnly_execute (toolchain : Toolchain σ) (place : Place) (name : String)
    (execution : Execution) (bench : Bench σ) :
    CompilesOnly place bench (execute toolchain place name execution bench).2 := by
  cases execution with
  | refused failure => exact ⟨.inl rfl, rfl⟩
  | raises failure => exact ⟨.inr rfl, rfl⟩
  | finishes => exact ⟨.inr rfl, rfl⟩

/-- A job that leaves all files alone but bytecode, behind one that leaves all files alone. -/
theorem compilesOnly_bind {job : Job σ α} {next : α → Job σ β} {place : Place} {bench : Bench σ}
    (h : Job.KeepsFiles job)
    (hnext : ∀ a after, after.files = bench.files → CompilesOnly place after (next a after).2) :
    CompilesOnly place bench ((job >>= next) bench).2 := by
  obtain ⟨hfiles, hhost⟩ := h bench
  rw [Act.bind_apply]
  rcases hjob : job bench with ⟨failure | a, after⟩
  · rw [hjob] at hfiles hhost
    rw [Act.bind_error next hjob]
    exact ⟨.inl hfiles, hhost⟩
  · rw [hjob] at hfiles hhost
    obtain ⟨hlater, hlast⟩ := hnext a after hfiles
    rw [Act.bind_ok next hjob, CompilesOnly, ← hfiles, ← hhost]
    exact ⟨hlater, hlast⟩

/-- A job that leaves all files alone, behind one that leaves all alone but bytecode. -/
theorem compilesOnly_of_bind {job : Job σ α} {next : α → Job σ β} {place : Place} {bench : Bench σ}
    (h : CompilesOnly place bench (job bench).2) (hnext : ∀ a, Job.KeepsFiles (next a)) :
    CompilesOnly place bench ((job >>= next) bench).2 := by
  rw [Act.bind_apply]
  rcases hjob : job bench with ⟨failure | a, after⟩
  · rw [hjob] at h
    rwa [Act.bind_error next hjob]
  · rw [hjob] at h
    obtain ⟨hlater, hlast⟩ := hnext a after
    rw [Act.bind_ok next hjob, CompilesOnly, hlater, hlast]
    exact h

/-- A source is compiled only if a file stands at its place. -/
theorem compilesOnly_loadAt (toolchain : Toolchain σ) (host : Host) (files : FileTree)
    (place : Place) (name : String) (bench : Bench σ) :
    CompilesOnly place bench (loadAt toolchain host files place name bench).2 := by
  unfold loadAt
  cases files.isFile place.text with
  | error refusal => exact ⟨.inl rfl, rfl⟩
  | ok found =>
      cases found with
      | false => exact ⟨.inl rfl, rfl⟩
      | true =>
          exact compilesOnly_bind (Job.keepsFiles_log _ _) fun _ after _ =>
            compilesOnly_execute toolchain place name _ after

/-- **Loading a source leaves all files alone but its bytecode.** -/
theorem compilesOnly_load (toolchain : Toolchain σ) (path : String) (name : Option String)
    (bench : Bench σ) :
    CompilesOnly (FilePath.resolve bench.files.workingDirectory path) bench
      (load toolchain path name bench).2 := by
  have hname : Job.KeepsFiles (chooseName name : Job σ String) := by
    cases name with
    | some name => exact Job.keepsFiles_pure name
    | none => exact fun _ => ⟨rfl, rfl⟩
  rw [load, Act.look_bind_apply, Act.look_bind_apply, resolve]
  split
  · exact ⟨.inl rfl, rfl⟩
  · rw [Act.ofExcept_ok_bind_apply]
    exact compilesOnly_bind hname fun chosen after _ =>
      compilesOnly_loadAt toolchain _ _ _ chosen after

end Loading

namespace Enumeration

variable (toolchain : Toolchain σ) (verbose : Bool)

theorem keepsFiles_ofItems (callable : Callable) (method : Method) (items : List (Option Ref)) :
    Job.KeepsFiles (ofItems toolchain verbose callable method items) := by
  induction items with
  | nil => exact Job.keepsFiles_pure _
  | cons item items ih =>
      cases item with
      | none => exact ih
      | some object =>
          exact (Job.keepsFiles_ask _).bind fun _ => (Job.keepsFiles_sayIf _ _).bind fun _ =>
            ih.bind fun _ => Job.keepsFiles_pure _

theorem keepsFiles_ofMethods (callable : Callable) (methods : List Method) :
    Job.KeepsFiles (ofMethods toolchain verbose callable methods) := by
  induction methods with
  | nil => exact Job.keepsFiles_pure _
  | cons method methods ih =>
      have hmethod : Job.KeepsFiles (ofMethod toolchain verbose callable method) :=
        (Job.keepsFiles_ask _).bind fun items =>
          keepsFiles_ofItems toolchain verbose callable method items
      exact hmethod.bind fun _ => ih.bind fun _ => Job.keepsFiles_pure _

theorem keepsFiles_ofBindings (context : Context) (seen : List Ref)
    (bindings : List (String × Ref)) :
    Job.KeepsFiles (ofBindings toolchain verbose context seen bindings) := by
  induction bindings generalizing seen with
  | nil => exact Job.keepsFiles_pure _
  | cons binding bindings ih =>
      obtain ⟨name, object⟩ := binding
      refine (Job.keepsFiles_ask _).bind fun callable => ?_
      split
      · have hcallable : Job.KeepsFiles (ofCallable toolchain verbose context name object) :=
          (Job.keepsFiles_ask _).bind fun _ => (Job.keepsFiles_sayIf _ _).bind fun _ =>
            (Job.keepsFiles_ask _).bind fun methods =>
              keepsFiles_ofMethods toolchain verbose _ methods
        exact hcallable.bind fun _ => (ih _).bind fun _ => Job.keepsFiles_pure _
      · exact ih seen

/-- Enumerating the specializations of a module leaves the files alone. -/
theorem keepsFiles_enumerate (context : Context) :
    Job.KeepsFiles (enumerate toolchain verbose context) :=
  (Job.keepsFiles_ask _).bind fun bindings =>
    (keepsFiles_ofBindings toolchain verbose context [] bindings).bind fun _ =>
      (Job.keepsFiles_log _ _).bind fun _ => Job.keepsFiles_pure _

end Enumeration

namespace Pipeline

/-- The part of a run up to the opening of the output: the loaded module, and the specializations
that are found in it. -/
def enumerated (toolchain : Toolchain σ) (arguments : Arguments) :
    Job σ (Context × List Specialization) := do
  Job.ask (toolchain.configure arguments.stageOptions)
  let context ← Loading.load toolchain arguments.inputFile none
  let found ← Enumeration.enumerate toolchain arguments.verbose context
  pure (context, found)

/-- The place of the source of a run. -/
def sourcePlace (arguments : Arguments) (files : FileTree) : Place :=
  FilePath.resolve files.workingDirectory arguments.inputFile

/-- **No file but the bytecode of the source is touched before the output is opened.** -/
theorem compilesOnly_enumerated (toolchain : Toolchain σ) (arguments : Arguments)
    (bench : Bench σ) :
    Loading.CompilesOnly (sourcePlace arguments bench.files) bench
      (enumerated toolchain arguments bench).2 := by
  refine Loading.compilesOnly_bind (Job.keepsFiles_ask _) fun _ after hfiles => ?_
  refine Loading.compilesOnly_of_bind ?_ fun context =>
    (Enumeration.keepsFiles_enumerate _ _ context).bind fun _ => Job.keepsFiles_pure _
  rw [sourcePlace, ← hfiles]
  exact Loading.compilesOnly_load toolchain arguments.inputFile none after

/-- The part of a run from the opening of the output on. -/
def outputWritten (toolchain : Toolchain σ) (arguments : Arguments) (context : Context)
    (found : List Specialization) : Job σ Nat := do
  let place ← openOutput arguments.outputPath
  closing place (writeAll toolchain arguments place found)
  Job.log .debug
    ("Wrote " ++ Text.natText found.length ++ " " ++ arguments.format.shown ++
      " blocks for " ++ context.path ++ " to " ++ arguments.outputPath)
  pure found.length

/-- **A run has two parts,** the second of which opens the output. -/
theorem generate_eq_bind (toolchain : Toolchain σ) (arguments : Arguments) :
    generate toolchain arguments =
      enumerated toolchain arguments >>= fun listed =>
        outputWritten toolchain arguments listed.1 listed.2 := by
  simp only [generate, enumerated, Act.bind_assoc, Act.pure_bind]
  rfl

end Pipeline

end JitExplorer
