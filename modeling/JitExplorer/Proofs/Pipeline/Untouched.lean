/-
**A run that fails early leaves every file as it was, but for bytecode.**

A run fails early if the settings cannot be applied, the source cannot be loaded, a question about
the module is answered with a failure, or the output cannot be opened.  It then fails in the same
way, has touched no file, and has asked for no stage.  This rests on the order of things: the stages
are only asked for one by one, behind the opening of the output.

There is one exception.  A host may keep the bytecode of the source in a file of its own, and it
does so before the source is executed, so that the file is there even if the source raises.

The two kinds of runs are told apart by whether the output is opened: a run fails early exactly if
it does not get behind that, and any other run has emptied its output, whatever happens later.

What the execution of a source does by itself is not a part of a run: sources are executed by the
interpreter, and here it is only known how that ends.

Main definitions:

* `Toolchain.Call.IsEarly` — a call that is about settings or about the module;
* `Job.Notes` — what a job notes, in view of how it ends;
* `Job.AsksNothing` — jobs that make no call;
* `Job.EndsEarly`, `Job.AsksEarly` — jobs that make early calls only, of which one that fails ends
  them, or which are the only way for them to fail;
* `Job.StartsLate` — jobs that make no early call;
* `Pipeline.opened` — the part of a run up to the opening of the output;
* `Pipeline.FailsEarly` — a run fails early;
* `Pipeline.keptPlace` — where the host keeps the bytecode of the source of a run.

Main results:

* `Pipeline.endsEarly_opened`, `Pipeline.startsLate_writtenTo` — that part makes early calls only,
  of which one that fails ends it, and no early call is made behind it;
* `Pipeline.opened_of_failsEarly`, `Pipeline.failsEarly_of_opened` — a run fails early exactly if it
  does not get behind that part;
* `Pipeline.exists_leaves_of_not_failsEarly` — any other run has emptied its output;
* `Pipeline.untouched_of_failsEarly` — **a run that fails early touches no file but bytecode.**
-/

import JitExplorer.Proofs.Pipeline.Calls
import JitExplorer.Proofs.Pipeline.Output

set_option autoImplicit false

namespace JitExplorer

variable {σ α β : Type}

open Toolchain (Call Event)

/-! ### What a job notes -/

/-- A call is early if it is about settings or about the module, and not about a stage. -/
def Toolchain.Call.IsEarly : Call → Prop
  | .supportsCodegenParams => False
  | .emit _ _ _ => False
  | _ => True

/-- Calls are early, and if one of them failed, so did the job in which they were made. -/
def EndedBy (outcome : Option Failure) (events : List Event) : Prop :=
  ∀ event ∈ events, event.call.IsEarly ∧
    ∀ failure, event.failure? = some failure → outcome = some failure

/-- If a job failed, so did one of the calls that were made in it. -/
def Blames (outcome : Option Failure) (events : List Event) : Prop :=
  ∀ failure, outcome = some failure → ∃ event ∈ events, event.failure? = some failure

/-- No call is early. -/
def AreLate (_outcome : Option Failure) (events : List Event) : Prop :=
  ∀ event ∈ events, ¬ event.call.IsEarly

namespace Job

/-- The events that a job notes satisfy a condition, in view of how the job ends. -/
def Notes (P : Option Failure → List Event → Prop) (job : Job (σ × List Event) α) : Prop :=
  ∀ bench, ∃ events, (job bench).2.compiler.2 = bench.compiler.2 ++ events ∧
    P (failureOf? (job bench).1) events

variable {P : Option Failure → List Event → Prop}

theorem notes_of_silent {job : Job (σ × List Event) α} (hnone : ∀ outcome, P outcome [])
    (h : ∀ bench, (job bench).2.compiler.2 = bench.compiler.2) : Notes P job :=
  fun bench => ⟨[], by rw [h bench, List.append_nil], hnone _⟩

theorem notes_pure (hnone : P none []) (a : α) : Notes P (pure a : Job (σ × List Event) α) :=
  fun _ => ⟨[], by simp, hnone⟩

theorem notes_log (hnone : P none []) (level : Log.Level) (message : String) :
    Notes P (log level message : Job (σ × List Event) Unit) :=
  fun _ => ⟨[], by simp [log], hnone⟩

theorem notes_sayIf (hnone : P none []) (verbose : Bool) (line : String) :
    Notes P (sayIf verbose line : Job (σ × List Event) Unit) := by
  intro bench
  cases verbose <;> exact ⟨[], by simp [sayIf, say], hnone⟩

/-- A question that is asked is noted with its failure. -/
theorem notes_ask (call : Call) (question : σ → Answer σ α)
    (h : ∀ failure?, P failure? [{ call, failure? }]) :
    Notes P (ask fun s : σ × List Event => Toolchain.noted call s.2 (question s.1)) :=
  fun _ => ⟨_, rfl, h _⟩

/-- Jobs one after another note one thing after another. -/
theorem Notes.bind {job : Job (σ × List Event) α} {next : α → Job (σ × List Event) β}
    (h : Notes P job) (hnext : ∀ a, Notes P (next a))
    (hchain : ∀ outcome events later, P none events → P outcome later →
      P outcome (events ++ later)) : Notes P (job >>= next) := by
  intro bench
  obtain ⟨events, hevents, hjobs⟩ := h bench
  rw [Act.bind_apply]
  rcases hjob : job bench with ⟨failure | a, after⟩
  · rw [hjob] at hevents hjobs
    rw [Act.bind_error next hjob]
    exact ⟨events, hevents, hjobs⟩
  · rw [hjob] at hevents hjobs
    obtain ⟨later, hlater, hrest⟩ := hnext a after
    rw [Act.bind_ok next hjob]
    exact ⟨events ++ later, by rw [hlater, hevents, List.append_assoc],
      hchain _ _ _ hjobs hrest⟩

theorem Notes.mono {Q : Option Failure → List Event → Prop} {job : Job (σ × List Event) α}
    (h : Notes P job) (hPQ : ∀ outcome events, P outcome events → Q outcome events) :
    Notes Q job := by
  intro bench
  obtain ⟨events, hevents, hholds⟩ := h bench
  exact ⟨events, hevents, hPQ _ _ hholds⟩

/-- What a job notes with a recorder that has not noted anything yet. -/
theorem Notes.of_recording {job : Job (σ × List Event) α} (h : Notes P job) (bench : Bench σ) :
    P (failureOf? (job bench.recording).1) (job bench.recording).2.compiler.2 := by
  obtain ⟨events, hevents, hholds⟩ := h bench.recording
  rwa [hevents]

end Job

/-! ### Early calls -/

theorem endedBy_nil (outcome : Option Failure) : EndedBy outcome [] :=
  fun _ hevent => nomatch hevent

/-- Calls that were answered are no reason for a job to end. -/
theorem EndedBy.append {outcome : Option Failure} {events later : List Event}
    (h : EndedBy none events) (hlater : EndedBy outcome later) :
    EndedBy outcome (events ++ later) := by
  intro event hevent
  rcases List.mem_append.1 hevent with hevent | hevent
  · exact ⟨(h event hevent).1, fun failure hfails => nomatch (h event hevent).2 failure hfails⟩
  · exact hlater event hevent

namespace Job

/-- A job makes early calls only, and one that fails ends it. -/
abbrev EndsEarly (job : Job (σ × List Event) α) : Prop :=
  Notes EndedBy job

/-- A job makes no call. -/
abbrev AsksNothing (job : Job (σ × List Event) α) : Prop :=
  Notes (fun _ events => events = []) job

/-- A job makes early calls only, and it fails exactly as one of them does. -/
abbrev AsksEarly (job : Job (σ × List Event) α) : Prop :=
  Notes (fun outcome events => EndedBy outcome events ∧ Blames outcome events) job

theorem EndsEarly.bind {job : Job (σ × List Event) α} {next : α → Job (σ × List Event) β}
    (h : EndsEarly job) (hnext : ∀ a, EndsEarly (next a)) : EndsEarly (job >>= next) :=
  Notes.bind h hnext fun _ _ _ => EndedBy.append

theorem AsksNothing.bind {job : Job (σ × List Event) α} {next : α → Job (σ × List Event) β}
    (h : AsksNothing job) (hnext : ∀ a, AsksNothing (next a)) : AsksNothing (job >>= next) :=
  Notes.bind h hnext fun _ _ _ hnone hlater => List.append_eq_nil_iff.2 ⟨hnone, hlater⟩

/-- A job that makes no call leaves the notes as they are. -/
theorem AsksNothing.notes_eq {job : Job (σ × List Event) α} (h : AsksNothing job)
    (bench : Bench (σ × List Event)) : (job bench).2.compiler.2 = bench.compiler.2 := by
  obtain ⟨events, hevents, rfl⟩ := h bench
  rw [hevents, List.append_nil]

theorem asksNothing_onFiles (work : Host → FileTree → Except Failure α × FileTree) :
    AsksNothing (onFiles work : Job (σ × List Event) α) :=
  notes_of_silent (fun _ => rfl) fun _ => rfl

theorem AsksNothing.endsEarly {job : Job (σ × List Event) α} (h : AsksNothing job) :
    EndsEarly job :=
  h.mono fun outcome _ hnone => hnone ▸ endedBy_nil outcome

theorem AsksEarly.bind {job : Job (σ × List Event) α} {next : α → Job (σ × List Event) β}
    (h : AsksEarly job) (hnext : ∀ a, AsksEarly (next a)) : AsksEarly (job >>= next) := by
  refine Notes.bind h hnext ?_
  rintro outcome events later ⟨hended, -⟩ ⟨hlater, hblames⟩
  refine ⟨hended.append hlater, fun failure hfails => ?_⟩
  obtain ⟨event, hevent, hfailed⟩ := hblames failure hfails
  exact ⟨event, List.mem_append_right events hevent, hfailed⟩

theorem AsksEarly.endsEarly {job : Job (σ × List Event) α} (h : AsksEarly job) : EndsEarly job :=
  h.mono fun _ _ hearly => hearly.1

/-- What succeeds without a call. -/
theorem asksEarly_nil : EndedBy none [] ∧ Blames none [] :=
  ⟨endedBy_nil none, fun _ hnone => nomatch hnone⟩

theorem asksEarly_pure (a : α) : AsksEarly (pure a : Job (σ × List Event) α) :=
  notes_pure asksEarly_nil a

theorem asksEarly_ask (call : Call) (hcall : call.IsEarly) (question : σ → Answer σ α) :
    AsksEarly (ask fun s : σ × List Event => Toolchain.noted call s.2 (question s.1)) := by
  refine notes_ask call question fun failure? => ⟨?_, ?_⟩
  · intro event hevent
    rw [List.mem_singleton.1 hevent]
    exact ⟨hcall, fun _ hfails => hfails⟩
  · exact fun failure hfails => ⟨_, List.mem_singleton_self _, hfails⟩

end Job

variable (toolchain : Toolchain σ)

namespace Loading

theorem asksNothing_execute (place : Place) (name : String) (execution : Execution) :
    Job.AsksNothing (execute toolchain.recorded place name execution) := by
  refine Job.notes_of_silent (fun _ => rfl) fun bench => ?_
  cases execution with
  | refused failure => rfl
  | raises failure => rfl
  | finishes => rfl

/-- Loading a source makes no call. -/
theorem asksNothing_load (path : String) (name : Option String) :
    Job.AsksNothing (load toolchain.recorded path name) := by
  have hsilent : ∀ {α : Type} {job : Job (σ × List Event) α},
      (∀ bench, (job bench).2.compiler.2 = bench.compiler.2) → Job.AsksNothing job :=
    Job.notes_of_silent fun _ => rfl
  have hname : Job.AsksNothing (chooseName name : Job (σ × List Event) String) := by
    cases name with
    | some name => exact hsilent fun _ => rfl
    | none => exact hsilent fun _ => rfl
  have hlook : ∀ {α : Type} (f : Bench (σ × List Event) → α),
      Job.AsksNothing (Act.look f : Job (σ × List Event) α) :=
    fun _ => hsilent fun _ => rfl
  refine (hlook _).bind fun files => (hlook _).bind fun host =>
    Job.AsksNothing.bind (hsilent fun _ => rfl) fun place => hname.bind fun name => ?_
  unfold loadAt
  cases files.isFile place.text with
  | error refusal => exact hsilent fun _ => rfl
  | ok isFile =>
      cases isFile with
      | false => exact hsilent fun _ => rfl
      | true =>
          exact Job.AsksNothing.bind (hsilent fun _ => rfl) fun _ =>
            asksNothing_execute toolchain place name _

end Loading

namespace Enumeration

variable (verbose : Bool)

theorem asksEarly_ofItems (callable : Callable) (method : Method) (items : List (Option Ref)) :
    Job.AsksEarly (ofItems toolchain.recorded verbose callable method items) := by
  induction items with
  | nil => exact Job.asksEarly_pure _
  | cons item items ih =>
      cases item with
      | none => exact ih
      | some object =>
          have hask : Job.AsksEarly (Job.ask (toolchain.recorded.argTypes object)) :=
            Job.asksEarly_ask (.argTypes object) trivial (toolchain.argTypes object)
          exact hask.bind fun _ =>
            Job.AsksEarly.bind (Job.notes_sayIf Job.asksEarly_nil _ _) fun _ =>
              Job.AsksEarly.bind ih fun _ => Job.asksEarly_pure _

theorem asksEarly_ofMethods (callable : Callable) (methods : List Method) :
    Job.AsksEarly (ofMethods toolchain.recorded verbose callable methods) := by
  induction methods with
  | nil => exact Job.asksEarly_pure _
  | cons method methods ih =>
      have hask : Job.AsksEarly (Job.ask (toolchain.recorded.specializations method)) :=
        Job.asksEarly_ask (.specializations method) trivial (toolchain.specializations method)
      have hmethod : Job.AsksEarly (ofMethod toolchain.recorded verbose callable method) :=
        hask.bind fun items => asksEarly_ofItems toolchain verbose callable method items
      exact hmethod.bind fun _ => Job.AsksEarly.bind ih fun _ => Job.asksEarly_pure _

theorem asksEarly_ofCallable (context : Context) (name : String) (object : Ref) :
    Job.AsksEarly (ofCallable toolchain.recorded verbose context name object) := by
  have hname : Job.AsksEarly (Job.ask (toolchain.recorded.displayName name object)) :=
    Job.asksEarly_ask (.displayName name object) trivial (toolchain.displayName name object)
  have hmethods : ∀ callable,
      Job.AsksEarly (Job.ask (toolchain.recorded.methods callable context)) :=
    fun callable =>
      Job.asksEarly_ask (.methods callable context) trivial (toolchain.methods callable context)
  exact hname.bind fun shown => Job.AsksEarly.bind (Job.notes_sayIf Job.asksEarly_nil _ _) fun _ =>
    (hmethods _).bind fun methods => asksEarly_ofMethods toolchain verbose _ methods

theorem asksEarly_ofBindings (context : Context) (seen : List Ref)
    (bindings : List (String × Ref)) :
    Job.AsksEarly (ofBindings toolchain.recorded verbose context seen bindings) := by
  induction bindings generalizing seen with
  | nil => exact Job.asksEarly_pure _
  | cons binding bindings ih =>
      obtain ⟨name, object⟩ := binding
      have hask : Job.AsksEarly (Job.ask (toolchain.recorded.isCallable object)) :=
        Job.asksEarly_ask (.isCallable object) trivial (toolchain.isCallable object)
      refine hask.bind fun callable => ?_
      split
      · exact (asksEarly_ofCallable toolchain verbose context name object).bind fun _ =>
          Job.AsksEarly.bind (ih _) fun _ => Job.asksEarly_pure _
      · exact ih seen

/-- Enumerating makes early calls only, and it fails exactly as one of them does. -/
theorem asksEarly_enumerate (context : Context) :
    Job.AsksEarly (enumerate toolchain.recorded verbose context) := by
  have hask : Job.AsksEarly (Job.ask (toolchain.recorded.bindings context)) :=
    Job.asksEarly_ask (.bindings context) trivial (toolchain.bindings context)
  exact hask.bind fun bindings => (asksEarly_ofBindings toolchain verbose context [] bindings).bind
    fun _ => Job.AsksEarly.bind (Job.notes_log Job.asksEarly_nil _ _) fun _ => Job.asksEarly_pure _

end Enumeration

/-! ### Late calls -/

namespace Job

/-- A job makes no early call. -/
abbrev StartsLate (job : Job (σ × List Event) α) : Prop :=
  Notes AreLate job

theorem areLate_nil (outcome : Option Failure) : AreLate outcome [] :=
  fun _ hevent => nomatch hevent

theorem StartsLate.bind {job : Job (σ × List Event) α} {next : α → Job (σ × List Event) β}
    (h : StartsLate job) (hnext : ∀ a, StartsLate (next a)) : StartsLate (job >>= next) :=
  Notes.bind h hnext fun _ _ _ hlate hlater => List.forall_mem_append.2 ⟨hlate, hlater⟩

theorem AsksNothing.startsLate {job : Job (σ × List Event) α} (h : AsksNothing job) :
    StartsLate job :=
  h.mono fun outcome _ hnone => hnone ▸ areLate_nil outcome

/-- A job whose only call is not early. -/
theorem areLate_singleton {call : Call} (hcall : ¬ call.IsEarly)
    (outcome failure? : Option Failure) : AreLate outcome [{ call, failure? }] := by
  intro event hevent
  rwa [List.mem_singleton.1 hevent]

end Job

namespace Extraction

theorem startsLate_settings (stage : Stage) (options : StageOptions) :
    Job.StartsLate (settings toolchain.recorded stage options) := by
  have hask : Job.StartsLate (Job.ask toolchain.recorded.supportsCodegenParams) :=
    Job.notes_ask .supportsCodegenParams toolchain.supportsCodegenParams fun _ =>
      Job.areLate_singleton id _ _
  unfold settings
  split
  · exact hask.bind fun _ => Job.notes_pure (Job.areLate_nil _) _
  · exact Job.notes_pure (Job.areLate_nil _) _

theorem startsLate_written (s : Specialization) (stage : Stage) (options : StageOptions) :
    Job.StartsLate (written toolchain.recorded s stage options) :=
  fun _ => ⟨_, rfl, Job.areLate_singleton id _ _⟩

/-- Extracting a stage makes no early call. -/
theorem startsLate_extractFormat (s : Specialization) (format : Datum) (options : StageOptions) :
    Job.StartsLate (extractFormat toolchain.recorded s format options) := by
  refine Job.StartsLate.bind (Job.notes_of_silent Job.areLate_nil fun _ => rfl) fun stage => ?_
  have htext := (startsLate_settings toolchain stage options).bind
    (startsLate_written toolchain s stage)
  -- Ascribing changes how a job ends, which does not matter here.
  have hascribed : Job.StartsLate (ascribed s stage
      (settings toolchain.recorded stage options >>= written toolchain.recorded s stage)) := by
    intro bench
    obtain ⟨events, hevents, hlate⟩ := htext bench
    exact ⟨events, by rw [ascribed_apply, hevents], hlate⟩
  exact hascribed.bind fun _ => Job.StartsLate.bind (Job.notes_log (Job.areLate_nil _) _ _) fun _ =>
    Job.notes_pure (Job.areLate_nil _) _

end Extraction

/-! ### Up to the opening of the output -/

namespace Pipeline

variable (arguments : Arguments)

/-- The part of a run up to the opening of the output: what is found in the module, and the place of
the output. -/
def opened : Job σ ((Context × List Specialization) × Place) := do
  let listed ← enumerated toolchain arguments
  let place ← openOutput arguments.outputPath
  pure (listed, place)

/-- The part of a run behind the opening of the output. -/
def writtenTo (listed : Context × List Specialization) (place : Place) : Job σ Nat := do
  closing place (writeAll toolchain arguments place listed.2)
  Job.log .debug
    ("Wrote " ++ Text.natText listed.2.length ++ " " ++ arguments.format.shown ++
      " blocks for " ++ listed.1.path ++ " to " ++ arguments.outputPath)
  pure listed.2.length

theorem generate_eq_opened_bind :
    generate toolchain arguments = opened toolchain arguments >>= fun ready =>
      writtenTo toolchain arguments ready.1 ready.2 := by
  simp only [generate_eq_bind, opened, Act.bind_assoc, Act.pure_bind]
  rfl

theorem asksEarly_configure (options : StageOptions) :
    Job.AsksEarly (Job.ask (toolchain.recorded.configure options)) :=
  Job.asksEarly_ask (.configure options) trivial (toolchain.configure options)

/-- Until its output is to be opened, a run makes early calls only, and one that fails ends it. -/
theorem endsEarly_enumerated : Job.EndsEarly (enumerated toolchain.recorded arguments) := by
  have henumerate : ∀ context, Job.EndsEarly
      (Enumeration.enumerate toolchain.recorded arguments.verbose context) :=
    fun context => (Enumeration.asksEarly_enumerate toolchain _ context).endsEarly
  exact (asksEarly_configure toolchain _).endsEarly.bind fun _ =>
    (Loading.asksNothing_load toolchain _ _).endsEarly.bind fun context =>
      (henumerate context).bind fun _ => Job.notes_pure (endedBy_nil _) _

/-- **Up to the opening of the output** a run makes early calls only, and one that fails ends it. -/
theorem endsEarly_opened : Job.EndsEarly (opened toolchain.recorded arguments) :=
  (endsEarly_enumerated toolchain arguments).bind fun _ =>
    (Job.asksNothing_onFiles _).endsEarly.bind fun _ => Job.notes_pure (endedBy_nil _) _

/-- An entry is written without a call. -/
theorem asksNothing_writeBlock (place : Place) (entry : Framing.Entry) :
    Job.AsksNothing (writeBlock place entry : Job (σ × List Event) Unit) := by
  have hheader : Job.AsksNothing (Act.ofExcept (Framing.formatHeader entry) :
      Job (σ × List Event) String) :=
    Job.notes_of_silent (fun _ => rfl) fun _ => rfl
  exact hheader.bind fun _ => (Job.asksNothing_onFiles _).bind fun _ =>
    (Job.asksNothing_onFiles _).bind fun _ => (Job.asksNothing_onFiles _).bind fun _ =>
      Job.asksNothing_onFiles _

/-- Closing the output adds no call. -/
theorem startsLate_closing (place : Place) {job : Job (σ × List Event) Unit}
    (h : Job.StartsLate job) : Job.StartsLate (closing place job) := by
  intro bench
  obtain ⟨events, hevents, hlate⟩ := h bench
  unfold closing
  rcases hjob : job bench with ⟨failure | done, after⟩
  · rw [hjob] at hevents
    dsimp only
    split
    · exact ⟨events, hevents, hlate⟩
    · have hclose : Job.AsksNothing (closeOutput place >>= fun _ => Act.fail failure :
          Job (σ × List Event) Unit) :=
        (Job.asksNothing_onFiles _).bind fun _ =>
          Job.notes_of_silent (fun _ => rfl) fun _ => rfl
      exact ⟨events, (hclose.notes_eq after).trans hevents, hlate⟩
  · rw [hjob] at hevents
    have hclose : Job.AsksNothing (closeOutput place : Job (σ × List Event) Unit) :=
      Job.asksNothing_onFiles _
    exact ⟨events, (hclose.notes_eq after).trans hevents, hlate⟩

/-- Behind the opening of the output a run makes no early call. -/
theorem startsLate_writtenTo (listed : Context × List Specialization) (place : Place) :
    Job.StartsLate (writtenTo toolchain.recorded arguments listed place) := by
  have hwrite : ∀ found, Job.StartsLate (writeAll toolchain.recorded arguments place found) := by
    intro found
    induction found with
    | nil => exact Job.notes_pure (Job.areLate_nil _) _
    | cons s found ih =>
        exact (Extraction.startsLate_extractFormat toolchain s _ _).bind fun _ =>
          (asksNothing_writeBlock place _).startsLate.bind fun _ => ih
  exact (startsLate_closing place (hwrite listed.2)).bind fun _ =>
    Job.StartsLate.bind (Job.notes_log (Job.areLate_nil _) _ _) fun _ =>
      Job.notes_pure (Job.areLate_nil _) _

/-! ### Runs that fail early -/

/-- **A run fails early:** a call fails that is about settings or about the module, the source
cannot be loaded, or the output cannot be opened. -/
inductive FailsEarly (bench : Bench σ) : Failure → Prop where
  | call {event : Event} {failure : Failure} (hevent : event ∈ calls toolchain arguments bench)
      (hearly : event.call.IsEarly) (hfails : event.failure? = some failure) :
      FailsEarly bench failure
  | load {configured : Bench σ} {failure : Failure}
      (hconfigure : Job.ask (toolchain.configure arguments.stageOptions) bench =
        (.ok (), configured))
      (hload : (Loading.load toolchain arguments.inputFile none configured).1 = .error failure) :
      FailsEarly bench failure
  | output {listed : Context × List Specialization} {prepared : Bench σ} {failure : Failure}
      (hlisted : enumerated toolchain arguments bench = (.ok listed, prepared))
      (hopen : (openOutput arguments.outputPath prepared).1 = .error failure) :
      FailsEarly bench failure

variable {toolchain arguments} {bench : Bench σ} {failure : Failure}

theorem agree_opened (toolchain : Toolchain σ) (arguments : Arguments) :
    Job.Agree (fun c s => c.1 = s) (opened toolchain.recorded arguments)
      (opened toolchain arguments) :=
  (agree_enumerated toolchain.agree_recorded arguments arguments.verbose).bind fun _ =>
    (Job.agree_onFiles _).bind fun _ => Job.agree_pure _

/-- A run that does not get behind the opening of its output ends there. -/
theorem generate_of_opened_error (h : (opened toolchain arguments bench).1 = .error failure) :
    generate toolchain arguments bench =
      (.error failure, (opened toolchain arguments bench).2) := by
  rw [generate_eq_opened_bind, Act.bind_apply]
  exact Act.bind_error _ (Prod.ext h rfl)

/-- An output that cannot be opened changes nothing. -/
theorem openOutput_snd_of_error {path : String}
    (h : (openOutput path bench).1 = .error failure) : (openOutput path bench).2 = bench := by
  unfold openOutput Job.onFiles at h ⊢
  cases htarget : bench.files.target path with
  | error refusal => simp only [htarget]
  | ok place =>
      cases hopening : bench.host.device.opening path with
      | some raised => simp only [htarget, hopening]
      | none =>
          simp only [htarget, hopening] at h
          cases h

/-- If a run does not get behind the opening of its output, no file is touched up to there, but for
the bytecode of the source. -/
theorem compilesOnly_of_opened_error (h : (opened toolchain arguments bench).1 = .error failure) :
    Loading.CompilesOnly (sourcePlace arguments bench.files) bench
      (opened toolchain arguments bench).2 := by
  have hcompiles := compilesOnly_enumerated toolchain arguments bench
  unfold opened at h ⊢
  rw [Act.bind_apply] at h ⊢
  rcases hlisted : enumerated toolchain arguments bench with ⟨_ | listed, prepared⟩
  · rw [hlisted] at hcompiles
    rwa [Act.bind_error _ hlisted]
  · rw [hlisted] at hcompiles
    rw [Act.bind_ok _ hlisted, Act.bind_pure_apply] at h ⊢
    rcases hopen : (openOutput arguments.outputPath prepared).1 with refused | place
    · rwa [openOutput_snd_of_error hopen]
    · rw [hopen] at h
      cases h

/-- **A run that fails early does not get behind the opening of its output.** -/
theorem opened_of_failsEarly (h : FailsEarly toolchain arguments bench failure) :
    (opened toolchain arguments bench).1 = .error failure := by
  cases h with
  | @call event _ hevent hearly hfails =>
      have hends := (endsEarly_opened toolchain arguments).of_recording bench
      obtain ⟨hresult, -⟩ := agree_opened toolchain arguments bench.agree_recording
      rw [← hresult]
      rw [calls, generate_eq_opened_bind, Act.bind_apply] at hevent
      rcases hopened : opened toolchain.recorded arguments bench.recording with
        ⟨refused | ready, after⟩
      · rw [hopened] at hends
        rw [Act.bind_error _ hopened] at hevent
        exact congrArg Except.error (Option.some.inj ((hends event hevent).2 failure hfails))
      · -- All calls up to the opening were answered, and no early one follows.
        obtain ⟨later, hlater, hlate⟩ :=
          startsLate_writtenTo toolchain arguments ready.1 ready.2 after
        rw [hopened] at hends
        rw [Act.bind_ok _ hopened, hlater] at hevent
        rcases List.mem_append.1 hevent with hevent | hevent
        · cases (hends event hevent).2 failure hfails
        · exact absurd hearly (hlate event hevent)
  | load hconfigure hload =>
      have hlisted : enumerated toolchain arguments bench = _ :=
        (Act.bind_ok _ hconfigure).trans (Act.bind_error _ (Prod.ext hload rfl))
      exact congrArg Prod.fst (Act.bind_error _ hlisted)
  | output hlisted hopen =>
      have hready : opened toolchain arguments bench = _ :=
        (Act.bind_ok _ hlisted).trans (Act.bind_error _ (Prod.ext hopen rfl))
      exact congrArg Prod.fst hready

/-- A run whose last job makes early calls fails early if that job fails. -/
theorem failsEarly_of_asksEarly {job : Job (σ × List Event) α} (hjob : Job.AsksEarly job)
    {before after : Bench (σ × List Event)} (hfails : job before = (.error failure, after))
    (hcalls : calls toolchain arguments bench = after.compiler.2) :
    FailsEarly toolchain arguments bench failure := by
  obtain ⟨events, hevents, hended, hblames⟩ := hjob before
  rw [hfails] at hevents hended hblames
  obtain ⟨event, hevent, hfailed⟩ := hblames failure rfl
  have hmember : event ∈ calls toolchain arguments bench := by
    rw [hcalls, hevents]
    exact List.mem_append_right _ hevent
  exact .call hmember (hended event hevent).1 hfailed

/-- **A run that does not get behind the opening of its output fails early.** -/
theorem failsEarly_of_opened (h : (opened toolchain arguments bench).1 = .error failure) :
    FailsEarly toolchain arguments bench failure := by
  have hbench := bench.agree_recording
  obtain ⟨hresult, -⟩ := agree_opened toolchain arguments hbench
  rcases hopened : opened toolchain.recorded arguments bench.recording with ⟨result, after⟩
  rw [hopened] at hresult
  obtain rfl : result = .error failure := hresult.trans h
  have hcalls : calls toolchain arguments bench = after.compiler.2 := by
    rw [calls, generate_of_opened_error (congrArg Prod.fst hopened), hopened]
  rcases Act.fails_of_bind_error hopened with hlisted | ⟨listed, prepared, hlisted, hready⟩
  · rcases Act.fails_of_bind_error hlisted with hconfigure | ⟨_, configured, hconfigure, hloaded⟩
    · exact failsEarly_of_asksEarly (asksEarly_configure toolchain _) hconfigure hcalls
    · obtain ⟨_, hplain, hagree⟩ :=
        (Job.agree_ask (toolchain.agree_recorded.configure _)).exists_of_eq hbench hconfigure
      rcases Act.fails_of_bind_error hloaded with hload | ⟨context, loaded, hload, hfound⟩
      · obtain ⟨_, hloads, -⟩ :=
          (Loading.agree_load toolchain.agree_recorded _ _).exists_of_eq hagree hload
        exact .load hplain (congrArg Prod.fst hloads)
      · rcases Act.fails_of_bind_error hfound with henumerate | ⟨_, _, -, hpure⟩
        · exact failsEarly_of_asksEarly
            (Enumeration.asksEarly_enumerate toolchain _ context) henumerate hcalls
        · cases hpure
  · obtain ⟨_, hplain, hagree⟩ :=
      (agree_enumerated toolchain.agree_recorded arguments arguments.verbose).exists_of_eq
        hbench hlisted
    rcases Act.fails_of_bind_error hready with hopen | ⟨_, _, -, hpure⟩
    · obtain ⟨_, hopens, -⟩ := (Job.agree_onFiles _).exists_of_eq hagree hopen
      exact .output hplain (congrArg Prod.fst hopens)
    · cases hpure

/-- A run that does not get behind the opening of its output makes early calls only. -/
theorem isEarly_of_opened_error (h : (opened toolchain arguments bench).1 = .error failure) :
    ∀ event ∈ calls toolchain arguments bench, event.call.IsEarly := by
  obtain ⟨hresult, -⟩ := agree_opened toolchain arguments bench.agree_recording
  intro event hevent
  rw [calls, generate_of_opened_error (hresult.trans h)] at hevent
  exact ((endsEarly_opened toolchain arguments).of_recording bench event hevent).1

/-- **A run that does not fail early has emptied its output,** whether it fails later or not: there
it leaves the blocks that it has written, and nothing of what was there before, if the device takes
what is written to it. -/
theorem exists_leaves_of_not_failsEarly (htakes : bench.host.device.TakesAll)
    (h : ∀ failure, ¬ FailsEarly toolchain arguments bench failure) :
    ∃ place written last, Leaves place written last (generate toolchain arguments bench).2 := by
  rcases hopened : opened toolchain arguments bench with ⟨refused | ready, after⟩
  · exact absurd (failsEarly_of_opened (congrArg Prod.fst hopened)) (h refused)
  · obtain ⟨⟨context, found⟩, prepared, hfound, hready⟩ := Act.exists_of_bind_ok hopened
    obtain ⟨place, emptied, hopen, -⟩ := Act.exists_of_bind_ok hready
    have hopens := opens_of_openOutput hopen
    obtain ⟨written, last, hextracted, hshort,
      hall | ⟨s, others, failure, next, hsplit, hstops⟩⟩ :=
      exists_written toolchain arguments found prepared.compiler
    · obtain ⟨after, hgenerate, hleaves⟩ :=
        generate_of_extracted hfound hopens htakes hextracted hshort hall
      exact ⟨place, written, last, hgenerate ▸ hleaves⟩
    · obtain ⟨after, hgenerate, hleaves⟩ :=
        generate_of_stops hfound hopens htakes hextracted hshort others hsplit hstops
      exact ⟨place, written, next, hgenerate ▸ hleaves⟩

/-- The place at which the host keeps the bytecode of the source of a run, if it does. -/
def keptPlace (arguments : Arguments) (bench : Bench σ) : Option Place :=
  bench.host.bytecodePlace bench.files (sourcePlace arguments bench.files)

/-- **A run that fails early touches no file,** but for the one in which the host keeps the bytecode
of the source.  It fails in the same way, leaves all other files as they were, and asks for no
stage.  Without bytecode nothing at all is touched. -/
theorem untouched_of_failsEarly (toolchain : Toolchain σ) (arguments : Arguments)
    {bench : Bench σ} {failure : Failure} (h : FailsEarly toolchain arguments bench failure) :
    ∃ after, generate toolchain arguments bench = (.error failure, after) ∧
      (∀ place, keptPlace arguments bench ≠ some place →
        after.files.file? place = bench.files.file? place) ∧
      (keptPlace arguments bench = none → after.files = bench.files) ∧
      ∀ event ∈ calls toolchain arguments bench, event.call.IsEarly := by
  have hopened := opened_of_failsEarly h
  obtain ⟨hfiles, -⟩ := compilesOnly_of_opened_error hopened
  refine ⟨_, generate_of_opened_error hopened, fun place hplace => ?_, fun hnone => ?_,
    isEarly_of_opened_error hopened⟩
  · rcases hfiles with hsame | hcompiled
    · rw [hsame]
    · rw [hcompiled, bench.host.file?_compiled_of_ne bench.files hplace]
  · rcases hfiles with hsame | hcompiled
    · exact hsame
    · rw [hcompiled, bench.host.compiled_of_none hnone]

/-- A script with two callables, of which the second one does not say its argument types. -/
def untypedScript : Script where
  bindings := [("f", callable (.ok ["int32"])), ("g", callable (.error (.ordinary "KeyError" "k")))]
where
  callable (argTypes : Except Failure (List String)) : Binding Script.Function :=
    .callable { definitions := [{ line := 4, items := .lone (some { argTypes }) }] }

/-- A bench with a source, and with the output of an older run, at a host that keeps bytecode. -/
def oldBench : Bench Script where
  compiler := untypedScript
  host := { bytecodePlace := Host.beside }
  files := { entries := [(["work", "in.py"], .source .finishes),
    (["work", "out.txt"], .text "old")] }

/-- Arguments for that bench. -/
def typedArguments : Arguments where
  format := .text "typed"
  debugInfo := .default
  optimize := true
  verbose := true
  inputFile := "in.py"
  outputPath := "out.txt"

/-- The second callable is reached, and the output of the older run stays. -/
theorem untouched_untypedScript :
    ⟨.argTypes [1, 0, 0], some (.ordinary "KeyError" "k")⟩ ∈
      calls Script.toolchain typedArguments oldBench ∧
    ∃ after, generate Script.toolchain typedArguments oldBench =
        (.error (.ordinary "KeyError" "k"), after) ∧
      after.files.file? ["work", "out.txt"] = some (.text "old") ∧
      ∀ event ∈ calls Script.toolchain typedArguments oldBench, event.call.IsEarly := by
  have hevent : ⟨.argTypes [1, 0, 0], some (.ordinary "KeyError" "k")⟩ ∈
      calls Script.toolchain typedArguments oldBench := by
    decide +kernel
  obtain ⟨after, hgenerate, hfiles, -, hearly⟩ :=
    untouched_of_failsEarly Script.toolchain typedArguments (.call hevent trivial rfl)
  refine ⟨hevent, after, hgenerate, ?_, hearly⟩
  rw [hfiles _ (by decide +kernel)]
  decide +kernel

/-- A bench with a source that raises, at a host that keeps bytecode. -/
def raisingBench : Bench Script where
  compiler := {}
  host := { bytecodePlace := Host.beside }
  files := { entries :=
    [(["work", "in.py"], .source (.raises (.ordinary "ZeroDivisionError" "division by zero")))] }

/-- **A run that fails early may leave a file behind:** the bytecode of a source that raises. -/
theorem exists_bytecode_left :
    ∃ failure, FailsEarly Script.toolchain typedArguments raisingBench failure ∧
      raisingBench.files.file? ["work", "__pycache__", "in.cpython-311.pyc"] = none ∧
      (generate Script.toolchain typedArguments raisingBench).2.files.file?
        ["work", "__pycache__", "in.cpython-311.pyc"] = some .bytecode := by
  have hload : (Loading.load Script.toolchain "in.py" none raisingBench).1 =
      .error (.explorer (.load "/work/in.py"
        (.raised ⟨"ZeroDivisionError", "division by zero", .ordinary⟩))) := by
    decide +kernel
  exact ⟨_, .load rfl hload, by decide +kernel, by decide +kernel⟩

end Pipeline

end JitExplorer
