/-
**What the output is blamed for.**

The program takes every refusal of the operating system that ends a run for one of the output.  Such
a refusal arises in one of three places: at the output, which is not opened or not written to, at
the look-up of a source whose path is too long, or in a call that is about settings or about the
module.  Behind the opening of the output it arises at the device only, since a failure of a stage
is ascribed to that stage.  So the output is blamed rightly exactly if the refusal does not arise in
one of the other two places, and it never arises in more than one of them.

Whatever receives the progress text takes it here.  A refusal of that would be one more for which
the output is blamed.

Main definitions:

* `Device.Refuses` — a device refuses to write or to close something;
* `Job.IsGuarded` — jobs that fail with a refusal of the operating system only if the device
  refuses;
* `Pipeline.RefusesOpening` — the output is not opened;
* `Pipeline.Origin`, `Pipeline.Arises` — the places where a refusal arises in a run;
* `Program.BlamesOutput` — the program reports that the output cannot be written.

Main results:

* `Extraction.isGuarded_extractFormat`, `Pipeline.isGuarded_writtenTo` — behind the opening of the
  output a refusal arises at the device only;
* `Pipeline.generate_refused_iff` — a run ends with a refusal exactly if it arises somewhere;
* `Pipeline.Arises.unique` — it arises in one place only;
* `Program.blamesOutput_iff_arises` — **the output is blamed for whatever arises in a run.**
-/

import JitExplorer.Proofs.CommandLine.Answers
import JitExplorer.Proofs.Extraction.Attribution
import JitExplorer.Proofs.Loading.Escapes
import JitExplorer.Proofs.Pipeline.Untouched
import JitExplorer.Proofs.Pipeline.Verbosity

set_option autoImplicit false

namespace JitExplorer

variable {σ α β : Type}

open Toolchain (Event)

/-! ### Refusals behind the opening of the output -/

/-- A device refuses to write or to close something. -/
def Device.Refuses (device : Device) (raised : Raised) : Prop :=
  (∃ before text kept, device.writing before text = some ⟨raised, kept⟩) ∨
    ∃ content kept, device.closing content = some ⟨raised, kept⟩

namespace Job

/-- A job leaves the host alone, and fails with a refusal of the operating system only if the device
refuses something. -/
def IsGuarded (job : Job σ α) : Prop :=
  ∀ bench, (job bench).2.host = bench.host ∧
    ∀ raised, (job bench).1 = .error (.foreign raised) → raised.nature = .system →
      bench.host.device.Refuses raised

theorem isGuarded_pure (a : α) : IsGuarded (pure a : Job σ α) :=
  fun _ => ⟨rfl, fun _ hfails => nomatch hfails⟩

theorem isGuarded_log (level : Log.Level) (message : String) :
    IsGuarded (log level message : Job σ Unit) :=
  fun _ => ⟨rfl, fun _ hfails => nomatch hfails⟩

theorem isGuarded_onFiles {work : Host → FileTree → Except Failure α × FileTree}
    (h : ∀ host files raised, (work host files).1 = .error (.foreign raised) →
      host.device.Refuses raised) : IsGuarded (onFiles work : Job σ α) :=
  fun bench => ⟨rfl, fun raised hfails _ => h bench.host bench.files raised hfails⟩

theorem IsGuarded.bind {job : Job σ α} {next : α → Job σ β} (h : IsGuarded job)
    (hnext : ∀ a, IsGuarded (next a)) : IsGuarded (job >>= next) := by
  intro bench
  obtain ⟨hhost, hguarded⟩ := h bench
  rw [Act.bind_apply]
  rcases hjob : job bench with ⟨failure | a, between⟩
  · rw [hjob] at hhost hguarded
    rw [Act.bind_error next hjob]
    exact ⟨hhost, fun raised hfails => hguarded raised (by cases hfails; rfl)⟩
  · rw [hjob] at hhost
    obtain ⟨hlast, hlater⟩ := hnext a between
    rw [Act.bind_ok next hjob]
    exact ⟨hlast.trans hhost, hhost ▸ hlater⟩

end Job

namespace Extraction

/-- A refusal is ascribed to the stage, as any failure that a program is expected to handle. -/
theorem isSystem_ascribe (s : Specialization) (stage : Stage) (failure : Failure) :
    (ascribe s stage failure).isSystem = false := by
  cases failure with
  | explorer error => rfl
  | foreign raised =>
      obtain ⟨kind, text, nature⟩ := raised
      cases nature <;> rfl

/-- **Extracting a stage never fails with a refusal.** -/
theorem isSystem_of_extractFormat {toolchain : Toolchain σ} {s : Specialization} {format : Datum}
    {options : StageOptions} {bench : Bench σ} {failure : Failure}
    (h : (extractFormat toolchain s format options bench).1 = .error failure) :
    failure.isSystem = false := by
  rcases Act.fails_of_bind_error (Prod.ext h rfl) with hstage | ⟨stage, between, -, hextract⟩
  · have hstage : stageOf format = .error failure := congrArg Prod.fst hstage
    unfold stageOf at hstage
    split at hstage
    · cases hstage
    · cases hstage
      rfl
  · have hfails := congrArg Prod.fst hextract
    rw [extract_fst] at hfails
    rcases hresult : (textJob toolchain s stage options between).1 with raised | text
    · rw [hresult] at hfails
      cases hfails
      exact isSystem_ascribe s stage raised
    · rw [hresult] at hfails
      cases hfails

theorem isGuarded_extractFormat (toolchain : Toolchain σ) (s : Specialization) (format : Datum)
    (options : StageOptions) : Job.IsGuarded (extractFormat toolchain s format options) := by
  intro bench
  refine ⟨congrArg (fun pair => pair.2.host)
    (asksOnly_extractFormat toolchain s format options bench),
    fun raised hfails hsystem => ?_⟩
  have hguarded := isSystem_of_extractFormat hfails
  rw [Failure.isSystem, Failure.toRaised, hsystem] at hguarded
  cases hguarded

end Extraction

namespace Pipeline

theorem isGuarded_writeText (place : Place) (text : String) :
    Job.IsGuarded (writeText place text : Job σ Unit) := by
  refine Job.isGuarded_onFiles fun host files raised hfails => ?_
  dsimp only at hfails
  split at hfails
  · cases hfails
  · rename_i refusal hrefused
    cases hfails
    exact .inl ⟨_, _, refusal.kept, hrefused⟩

theorem isGuarded_closeOutput (place : Place) :
    Job.IsGuarded (closeOutput place : Job σ Unit) := by
  refine Job.isGuarded_onFiles fun host files raised hfails => ?_
  dsimp only at hfails
  split at hfails
  · cases hfails
  · rename_i refusal hrefused
    cases hfails
    exact .inr ⟨_, refusal.kept, hrefused⟩

theorem isGuarded_writeBlock (place : Place) (entry : Framing.Entry) :
    Job.IsGuarded (writeBlock place entry : Job σ Unit) := by
  by_cases hshort : entry.HasShortNumbers
  · rw [writeBlock, Framing.formatHeader_of_hasShortNumbers hshort]
    exact (isGuarded_writeText place _).bind fun _ => (isGuarded_writeText place _).bind fun _ =>
      (isGuarded_writeText place _).bind fun _ => isGuarded_writeText place _
  · intro bench
    rw [writeBlock_of_not_hasShortNumbers place hshort]
    refine ⟨rfl, fun raised hfails hsystem => ?_⟩
    cases hfails
    cases hsystem

/-- Behind a job that is guarded the closing of the output is guarded. -/
theorem isGuarded_closing (place : Place) {job : Job σ Unit} (h : Job.IsGuarded job) :
    Job.IsGuarded (closing place job) := by
  intro bench
  obtain ⟨hhost, hguarded⟩ := h bench
  unfold closing
  rcases hjob : job bench with ⟨failure | done, after⟩
  · rw [hjob] at hhost hguarded
    dsimp only
    split
    · exact ⟨hhost, hguarded⟩
    · obtain ⟨hlast, hclosed⟩ := isGuarded_closeOutput place after
      rw [Act.bind_apply]
      rcases hclose : closeOutput place after with ⟨refused | done, closed⟩
      · rw [hclose] at hlast hclosed
        rw [Act.bind_error _ hclose]
        exact ⟨hlast.trans hhost, hhost ▸ fun raised hfails => hclosed raised (by cases hfails; rfl)⟩
      · rw [hclose] at hlast
        rw [Act.bind_ok _ hclose]
        exact ⟨hlast.trans hhost, hguarded⟩
  · rw [hjob] at hhost
    obtain ⟨hlast, hclosed⟩ := isGuarded_closeOutput place after
    exact ⟨hlast.trans hhost, hhost ▸ hclosed⟩

/-- **Behind the opening of the output a refusal arises at the device only.** -/
theorem isGuarded_writtenTo (toolchain : Toolchain σ) (arguments : Arguments)
    (listed : Context × List Specialization) (place : Place) :
    Job.IsGuarded (writtenTo toolchain arguments listed place) := by
  have hwrite : ∀ found, Job.IsGuarded (writeAll toolchain arguments place found) := by
    intro found
    induction found with
    | nil => exact Job.isGuarded_pure _
    | cons s found ih =>
        exact (Extraction.isGuarded_extractFormat toolchain s _ _).bind fun _ =>
          (isGuarded_writeBlock place _).bind fun _ => ih
  exact (isGuarded_closing place (hwrite listed.2)).bind fun _ => (Job.isGuarded_log _ _).bind
    fun _ => Job.isGuarded_pure _

/-! ### Where a refusal arises -/

/-- The places where a refusal of the operating system arises in a run. -/
inductive Origin where
  | output
  | input
  | call
  deriving DecidableEq, Repr

/-- The output is not opened: its path leads nowhere, or the device refuses. -/
inductive RefusesOpening (bench : Bench σ) (path : String) : Failure → Prop where
  | place {refusal : FileTree.Refusal} (htarget : bench.files.target path = .error refusal) :
      RefusesOpening bench path (refusal.toFailure path)
  | device {place : Place} {raised : Raised} (htarget : bench.files.target path = .ok place)
      (hrefused : bench.host.device.opening path = some raised) :
      RefusesOpening bench path (.foreign raised)

/-- **A refusal arises in a run.** -/
inductive Arises (toolchain : Toolchain σ) (arguments : Arguments) (bench : Bench σ) :
    Origin → Raised → Prop where
  /-- Everything is enumerated, but the output cannot be opened. -/
  | opening {listed : Context × List Specialization} {prepared : Bench σ} {raised : Raised}
      (hlisted : enumerated toolchain arguments bench = (.ok listed, prepared))
      (hrefused : RefusesOpening prepared arguments.outputPath (.foreign raised))
      (hsystem : raised.nature = .system) : Arises toolchain arguments bench .output raised
  /-- The output is opened, but the device refuses to write or to close it. -/
  | writing {listed : Context × List Specialization} {prepared : Bench σ} {place : Place}
      {raised : Raised}
      (hlisted : enumerated toolchain arguments bench = (.ok listed, prepared))
      (hopens : Opens prepared arguments.outputPath place)
      (hrefused : bench.host.device.Refuses raised)
      (hends : (writtenTo toolchain arguments listed place
        { prepared with files := prepared.files.write place "" }).1 = .error (.foreign raised))
      (hsystem : raised.nature = .system) : Arises toolchain arguments bench .output raised
  /-- The settings are applied, but the path of the source is too long to be looked up. -/
  | input {configured : Bench σ} {raised : Raised}
      (hconfigure : Job.ask (toolchain.configure arguments.stageOptions) bench =
        (.ok (), configured))
      (hnull : ¬ Loading.HoldsNull bench.files arguments.inputFile)
      (hlong : bench.files.IsOverlong (Loading.resolvedPath bench.files arguments.inputFile))
      (hraised : FileTree.Refusal.tooLong.toFailure
        (Loading.resolvedPath bench.files arguments.inputFile) = .foreign raised) :
      Arises toolchain arguments bench .input raised
  /-- A call that is about settings or about the module is answered with it. -/
  | call {event : Event} {raised : Raised} (hevent : event ∈ calls toolchain arguments bench)
      (hearly : event.call.IsEarly) (hfails : event.failure? = some (.foreign raised))
      (hsystem : raised.nature = .system) : Arises toolchain arguments bench .call raised

variable {toolchain : Toolchain σ} {arguments : Arguments} {bench : Bench σ}

/-- A refusal is a refusal wherever it arises. -/
theorem Arises.nature_eq {origin : Origin} {raised : Raised}
    (h : Arises toolchain arguments bench origin raised) : raised.nature = .system := by
  cases h with
  | opening _ _ hsystem => exact hsystem
  | writing _ _ _ _ hsystem => exact hsystem
  | input _ _ _ hraised =>
      cases hraised
      rfl
  | call _ _ _ hsystem => exact hsystem

theorem files_of_configure {configured : Bench σ}
    (h : Job.ask (toolchain.configure arguments.stageOptions) bench = (.ok (), configured)) :
    configured.files = bench.files :=
  (congrArg (fun answer => answer.2.files) h).symm

/-- The output is not opened exactly if its path leads nowhere or the device refuses. -/
theorem openOutput_eq_error_iff {path : String} {failure : Failure} :
    (openOutput path bench).1 = .error failure ↔ RefusesOpening bench path failure := by
  unfold openOutput Job.onFiles
  constructor
  · intro h
    cases htarget : bench.files.target path with
    | error refusal =>
        simp only [htarget] at h
        cases h
        exact .place htarget
    | ok place =>
        cases hopening : bench.host.device.opening path with
        | some raised =>
            simp only [htarget, hopening] at h
            cases h
            exact .device htarget hopening
        | none =>
            simp only [htarget, hopening] at h
            cases h
  · rintro (htarget | ⟨htarget, hrefused⟩)
    · simp only [htarget]
    · simp only [htarget, hrefused]

/-- The source of a run is looked up among the files that the run started with. -/
theorem load_of_isOverlong {configured : Bench σ} {raised : Raised}
    (hconfigure : Job.ask (toolchain.configure arguments.stageOptions) bench =
      (.ok (), configured))
    (hnull : ¬ Loading.HoldsNull bench.files arguments.inputFile)
    (hlong : bench.files.IsOverlong (Loading.resolvedPath bench.files arguments.inputFile))
    (hraised : FileTree.Refusal.tooLong.toFailure
      (Loading.resolvedPath bench.files arguments.inputFile) = .foreign raised) :
    (Loading.load toolchain arguments.inputFile none configured).1 = .error (.foreign raised) := by
  rw [← files_of_configure hconfigure] at hnull hlong hraised
  rw [← hraised]
  exact Loading.load_of_escapes toolchain none (.tooLong hnull hlong)

/-- A run that opens its output ends as the part behind that does. -/
theorem generate_of_opens_eq {listed : Context × List Specialization} {prepared : Bench σ}
    {place : Place} (hlisted : enumerated toolchain arguments bench = (.ok listed, prepared))
    (hopens : Opens prepared arguments.outputPath place) :
    generate toolchain arguments bench = writtenTo toolchain arguments listed place
      { prepared with files := prepared.files.write place "" } := by
  have hopened : opened toolchain arguments bench = _ :=
    (Act.bind_ok _ hlisted).trans (Act.bind_ok _ (openOutput_of_opens hopens))
  rw [generate_eq_opened_bind, Act.bind_apply]
  exact Act.bind_ok _ hopened

/-- **A run ends with whatever refusal arises in it.** -/
theorem Arises.generate_eq {origin : Origin} {raised : Raised}
    (h : Arises toolchain arguments bench origin raised) :
    (generate toolchain arguments bench).1 = .error (.foreign raised) := by
  have hearly (h : FailsEarly toolchain arguments bench (.foreign raised)) :=
    congrArg Prod.fst (generate_of_opened_error (opened_of_failsEarly h))
  cases h with
  | opening hlisted hrefused _ =>
      exact hearly (.output hlisted (openOutput_eq_error_iff.2 hrefused))
  | writing hlisted hopens _ hends _ => rw [generate_of_opens_eq hlisted hopens, hends]
  | input hconfigure hnull hlong hraised =>
      exact hearly (.load hconfigure (load_of_isOverlong hconfigure hnull hlong hraised))
  | call hevent hcall hfails _ => exact hearly (.call hevent hcall hfails)

/-- **A run that fails early with a refusal fails where it arises.** -/
theorem FailsEarly.exists_arises {raised : Raised}
    (h : FailsEarly toolchain arguments bench (.foreign raised))
    (hsystem : raised.nature = .system) :
    ∃ origin, Arises toolchain arguments bench origin raised := by
  generalize hfailure : Failure.foreign raised = failure at h
  cases h with
  | call hevent hearly hfails =>
      exact ⟨.call, .call hevent hearly (hfailure ▸ hfails) hsystem⟩
  | load hconfigure hload =>
      obtain ⟨hnull, hlong, hraised⟩ :=
        (Loading.escapes_of_load toolchain none (hfailure ▸ hload)).isOverlong hsystem
      rw [files_of_configure hconfigure] at hnull hlong hraised
      exact ⟨.input, .input hconfigure hnull hlong hraised.symm⟩
  | output hlisted hopen =>
      exact ⟨.output, .opening hlisted (hfailure ▸ openOutput_eq_error_iff.1 hopen) hsystem⟩

/-- **A run ends with a refusal exactly if it arises somewhere.** -/
theorem generate_refused_iff {raised : Raised} :
    (generate toolchain arguments bench).1 = .error (.foreign raised) ∧ raised.nature = .system ↔
      ∃ origin, Arises toolchain arguments bench origin raised := by
  constructor
  · rintro ⟨hfails, hsystem⟩
    rcases hopened : opened toolchain arguments bench with ⟨failure | ready, after⟩
    · have hfailed := congrArg Prod.fst hopened
      rw [generate_of_opened_error hfailed] at hfails
      cases hfails
      exact (failsEarly_of_opened hfailed).exists_arises hsystem
    · obtain ⟨listed, prepared, hlisted, hready⟩ := Act.exists_of_bind_ok hopened
      obtain ⟨place, _, hopen, -⟩ := Act.exists_of_bind_ok hready
      have hopens := opens_of_openOutput hopen
      rw [generate_of_opens_eq hlisted hopens] at hfails
      have hrefused := (isGuarded_writtenTo toolchain arguments listed place _).2 _ hfails hsystem
      rw [host_of_enumerated hlisted] at hrefused
      exact ⟨.output, .writing hlisted hopens hrefused hfails hsystem⟩
  · rintro ⟨origin, harises⟩
    exact ⟨harises.generate_eq, harises.nature_eq⟩

/-! ### A refusal arises in one place -/

/-- If a run gets behind early calls and makes no more of them, they were all answered. -/
theorem answered_of_bind {front : Job (σ × List Event) α} {rest : α → Job (σ × List Event) β}
    {between : Bench (σ × List Event)} {a : α} (hfront : Job.EndsEarly front)
    (hok : front bench.recording = (.ok a, between))
    (hrest : ∃ later, (rest a between).2.compiler.2 = between.compiler.2 ++ later ∧
      ∀ event ∈ later, ¬ event.call.IsEarly) :
    ∀ event ∈ ((front >>= rest) bench.recording).2.compiler.2, event.call.IsEarly →
      event.failure? = none := by
  intro event hevent hearly
  obtain ⟨later, hlater, hlate⟩ := hrest
  have hended := hfront.of_recording bench
  rw [hok] at hended
  rw [Act.bind_apply, Act.bind_ok _ hok, hlater] at hevent
  rcases List.mem_append.1 hevent with hevent | hevent
  · cases hfailure : event.failure? with
    | none => rfl
    | some failure => cases (hended event hevent).2 failure hfailure
  · exact absurd hearly (hlate event hevent)

/-- If everything is enumerated, all early calls were answered. -/
theorem answered_of_enumerated {listed : Context × List Specialization} {prepared : Bench σ}
    (hlisted : enumerated toolchain arguments bench = (.ok listed, prepared)) :
    ∀ event ∈ calls toolchain arguments bench, event.call.IsEarly → event.failure? = none := by
  have hsplit : generate toolchain.recorded arguments =
      enumerated toolchain.recorded arguments >>= fun listed =>
        openOutput arguments.outputPath >>= fun place =>
          writtenTo toolchain.recorded arguments listed place := by
    simp only [generate_eq_opened_bind, opened, Act.bind_assoc, Act.pure_bind]
  have hrest : Job.StartsLate (openOutput arguments.outputPath >>= fun place =>
      writtenTo toolchain.recorded arguments listed place) :=
    (Job.asksNothing_onFiles _).startsLate.bind fun place =>
      startsLate_writtenTo toolchain arguments listed place
  have hresult := (agree_enumerated toolchain.agree_recorded arguments arguments.verbose
    bench.agree_recording).1
  rw [calls, hsplit]
  rcases hrecorded : enumerated toolchain.recorded arguments bench.recording with ⟨result, between⟩
  rw [hrecorded] at hresult
  obtain rfl : result = .ok listed := hresult.trans (congrArg Prod.fst hlisted)
  exact answered_of_bind (endsEarly_enumerated toolchain arguments) hrecorded (hrest between)

/-- A run starts with the settings and the source. -/
theorem exists_generate_eq (toolchain : Toolchain σ) (arguments : Arguments) :
    ∃ next, generate toolchain arguments =
      Job.ask (toolchain.configure arguments.stageOptions) >>= fun _ =>
        Loading.load toolchain arguments.inputFile none >>= next :=
  ⟨_, rfl⟩

/-- If the source cannot be loaded, all early calls were answered. -/
theorem answered_of_load {configured : Bench σ} {failure : Failure}
    (hconfigure : Job.ask (toolchain.configure arguments.stageOptions) bench =
      (.ok (), configured))
    (hload : (Loading.load toolchain arguments.inputFile none configured).1 = .error failure) :
    ∀ event ∈ calls toolchain arguments bench, event.call.IsEarly → event.failure? = none := by
  have hagree := Job.agree_ask (toolchain.agree_recorded.configure arguments.stageOptions)
  rcases hrecorded : Job.ask (toolchain.recorded.configure arguments.stageOptions)
    bench.recording with ⟨result, between⟩
  obtain ⟨_, hplain, hbetween⟩ := hagree.exists_of_eq bench.agree_recording hrecorded
  cases hplain.symm.trans hconfigure
  have hfails : (Loading.load toolchain.recorded arguments.inputFile none between).1 =
      .error failure :=
    (Loading.agree_load toolchain.agree_recorded _ _ hbetween).1.trans hload
  have hsilent := (Loading.asksNothing_load toolchain arguments.inputFile none).notes_eq between
  obtain ⟨next, hnext⟩ := exists_generate_eq toolchain.recorded arguments
  have hrest : ((Loading.load toolchain.recorded arguments.inputFile none >>= next)
      between).2.compiler.2 = between.compiler.2 ++ [] := by
    rw [Act.bind_apply, Act.bind_error _ (Prod.ext hfails rfl), hsilent, List.append_nil]
  have hfront := (asksEarly_configure toolchain arguments.stageOptions).endsEarly
  rw [calls, hnext]
  exact answered_of_bind hfront hrecorded ⟨[], hrest, List.forall_mem_nil _⟩

theorem not_arises_call (hanswered : ∀ event ∈ calls toolchain arguments bench,
    event.call.IsEarly → event.failure? = none) {raised : Raised} :
    ¬ Arises toolchain arguments bench .call raised := by
  intro h
  cases h with
  | call hevent hearly hfails _ =>
      rw [hanswered _ hevent hearly] at hfails
      cases hfails

theorem Arises.not_call_of_output {first second : Raised}
    (h : Arises toolchain arguments bench .output first) :
    ¬ Arises toolchain arguments bench .call second := by
  cases h with
  | opening hlisted _ _ => exact not_arises_call (answered_of_enumerated hlisted)
  | writing hlisted _ _ _ _ => exact not_arises_call (answered_of_enumerated hlisted)

theorem Arises.not_call_of_input {first second : Raised}
    (h : Arises toolchain arguments bench .input first) :
    ¬ Arises toolchain arguments bench .call second := by
  cases h with
  | input hconfigure hnull hlong hraised =>
      exact not_arises_call (answered_of_load hconfigure
        (load_of_isOverlong hconfigure hnull hlong hraised))

/-- Nothing is enumerated if the source is not loaded. -/
theorem not_arises_input {listed : Context × List Specialization} {prepared : Bench σ}
    (hlisted : enumerated toolchain arguments bench = (.ok listed, prepared)) {raised : Raised} :
    ¬ Arises toolchain arguments bench .input raised := by
  intro hinput
  obtain ⟨_, ready, hready, hloaded⟩ := Act.exists_of_bind_ok hlisted
  obtain ⟨context, loaded, hload, -⟩ := Act.exists_of_bind_ok hloaded
  cases hinput with
  | input hconfigure hnull hlong hraised =>
      cases hready.symm.trans hconfigure
      have hfails := load_of_isOverlong hconfigure hnull hlong hraised
      rw [hload] at hfails
      cases hfails

theorem Arises.not_input_of_output {first second : Raised}
    (h : Arises toolchain arguments bench .output first) :
    ¬ Arises toolchain arguments bench .input second := by
  cases h with
  | opening hlisted _ _ => exact not_arises_input hlisted
  | writing hlisted _ _ _ _ => exact not_arises_input hlisted

/-- **A refusal arises in one place only.** -/
theorem Arises.unique {origin other : Origin} {first second : Raised}
    (h : Arises toolchain arguments bench origin first)
    (hother : Arises toolchain arguments bench other second) : origin = other := by
  cases origin with
  | output =>
      cases other with
      | output => rfl
      | input => exact absurd hother h.not_input_of_output
      | call => exact absurd hother h.not_call_of_output
  | input =>
      cases other with
      | output => exact absurd h hother.not_input_of_output
      | input => rfl
      | call => exact absurd hother h.not_call_of_input
  | call =>
      cases other with
      | output => exact absurd h hother.not_call_of_output
      | input => exact absurd h hother.not_call_of_input
      | call => rfl

end Pipeline

/-! ### What the program reports -/

namespace Program

open Pipeline (Arises)

/-- **The program blames the output** for something that ended its run: it reports that the output
cannot be written, and returns 1. -/
structure BlamesOutput (toolchain : Toolchain σ) (tokens : List String) (bench : Bench σ)
    (arguments : Arguments) (raised : Raised) : Prop where
  asked : CommandLine.parse tokens = .ok (.run arguments)
  failed : (Pipeline.generate toolchain arguments bench).1 = .error (.foreign raised)
  ended : (run toolchain tokens bench).ending = .returned 1
  logged : (run toolchain tokens bench).bench.log =
    (Pipeline.generate toolchain arguments bench).2.log ++
      [⟨.error, "Cannot write " ++ arguments.outputPath ++ ": " ++ raised.text⟩]

variable {toolchain : Toolchain σ} {tokens : List String} {bench : Bench σ}
  {arguments : Arguments} {raised : Raised}

/-- How the program ends with something that was raised elsewhere. -/
theorem settle_foreign (arguments : Arguments) (raised : Raised) (bench : Bench σ) :
    settle arguments (.error (.foreign raised)) bench =
      if raised.nature = .system then
        (.returned 1, { bench with log := bench.log ++
          [⟨.error, "Cannot write " ++ arguments.outputPath ++ ": " ++ raised.text⟩] })
      else (escape (.foreign raised), bench) := by
  unfold settle message?
  by_cases hnature : raised.nature = .system
  · simp only [if_pos hnature]
  · simp only [if_neg hnature]

/-- The output is blamed for whatever refusal ends a run. -/
theorem blamesOutput_iff_refused :
    BlamesOutput toolchain tokens bench arguments raised ↔
      CommandLine.parse tokens = .ok (.run arguments) ∧
        (Pipeline.generate toolchain arguments bench).1 = .error (.foreign raised) ∧
          raised.nature = .system := by
  constructor
  · rintro ⟨hasked, hfailed, hended, -⟩
    have hsettle : ((run toolchain tokens bench).ending, (run toolchain tokens bench).bench) = _ :=
      run_of_parse hasked bench
    refine ⟨hasked, hfailed, Classical.byContradiction fun hnature => ?_⟩
    rw [hfailed, settle_foreign, if_neg hnature, hended, escape] at hsettle
    split at hsettle <;> cases (Prod.mk.inj hsettle).1
  · rintro ⟨hasked, hfailed, hnature⟩
    have hsettle : ((run toolchain tokens bench).ending, (run toolchain tokens bench).bench) = _ :=
      run_of_parse hasked bench
    rw [hfailed, settle_foreign, if_pos hnature] at hsettle
    obtain ⟨hended, hleft⟩ := Prod.mk.inj hsettle
    exact ⟨hasked, hfailed, hended, congrArg Bench.log hleft⟩

/-- **The output is blamed for whatever refusal arises in a run,** so it is blamed rightly, for what
arises at its opening or its writing, exactly if the refusal arises neither at the look-up of the
source nor in an early call. -/
theorem blamesOutput_iff_arises (toolchain : Toolchain σ) (tokens : List String) (bench : Bench σ)
    (arguments : Arguments) (raised : Raised) :
    (BlamesOutput toolchain tokens bench arguments raised ↔
      CommandLine.parse tokens = .ok (.run arguments) ∧
        ∃ origin, Arises toolchain arguments bench origin raised) ∧
    (BlamesOutput toolchain tokens bench arguments raised →
      (Arises toolchain arguments bench .output raised ↔
        ¬ Arises toolchain arguments bench .input raised ∧
          ¬ Arises toolchain arguments bench .call raised)) := by
  have hiff : BlamesOutput toolchain tokens bench arguments raised ↔
      CommandLine.parse tokens = .ok (.run arguments) ∧
        ∃ origin, Arises toolchain arguments bench origin raised :=
    blamesOutput_iff_refused.trans (and_congr_right fun _ => Pipeline.generate_refused_iff)
  refine ⟨hiff, fun hblames => ⟨fun houtput => ?_, fun helsewhere => ?_⟩⟩
  · constructor
    · exact fun hinput => nomatch houtput.unique hinput
    · exact fun hcall => nomatch houtput.unique hcall
  · obtain ⟨-, origin, harises⟩ := hiff.1 hblames
    cases origin with
    | output => exact harises
    | input => exact absurd harises helsewhere.1
    | call => exact absurd harises helsewhere.2

/-- Arguments that name an input file and an output, and nothing else. -/
def argumentsFor (inputFile outputPath : String) : Arguments where
  format := .text "native"
  debugInfo := .default
  optimize := true
  verbose := false
  inputFile := inputFile
  outputPath := outputPath

/-- A bench with a source in whose module nothing is found. -/
def bareBench : Bench Script where
  compiler := {}
  files := { entries := [(["work", "in.py"], .source .finishes)] }

/-- Arguments for that bench, with an output in a directory that does not exist. -/
def gapArguments : Arguments :=
  argumentsFor "in.py" "gap/out.txt"

/-- The refusal of that output. -/
def gapRefusal : Raised :=
  ⟨"FileNotFoundError", "[Errno 2] No such file or directory: 'gap/out.txt'", .system⟩

/-- An output in a directory that does not exist is blamed rightly. -/
theorem blamesOutput_gap :
    BlamesOutput Script.toolchain ["in.py", "gap/out.txt"] bareBench gapArguments gapRefusal ∧
      ¬ Arises Script.toolchain gapArguments bareBench .input gapRefusal ∧
      ¬ Arises Script.toolchain gapArguments bareBench .call gapRefusal := by
  have hparse : CommandLine.parse ["in.py", "gap/out.txt"] = .ok (.run gapArguments) := by
    decide +kernel
  have hlisted : Pipeline.enumerated Script.toolchain gapArguments bareBench =
      (.ok (⟨"numba_explorer_input_0", "/work/in.py"⟩, []),
        (Pipeline.enumerated Script.toolchain gapArguments bareBench).2) :=
    Prod.fst_eq_iff.1 (by decide +kernel)
  have htarget : (Pipeline.enumerated Script.toolchain gapArguments bareBench).2.files.target
      gapArguments.outputPath = .error .missing := by
    decide +kernel
  have hfailure : FileTree.Refusal.missing.toFailure gapArguments.outputPath =
      .foreign gapRefusal := by
    decide +kernel
  have houtput : Arises Script.toolchain gapArguments bareBench .output gapRefusal :=
    .opening hlisted (hfailure ▸ .place htarget) rfl
  obtain ⟨hiff, hright⟩ := blamesOutput_iff_arises Script.toolchain ["in.py", "gap/out.txt"]
    bareBench gapArguments gapRefusal
  have hblames := hiff.2 ⟨hparse, .output, houtput⟩
  exact ⟨hblames, (hright hblames).1 houtput⟩

/-- A bench with a source whose callable answers the question for its argument types with a refusal
of the operating system. -/
def refusingBench : Bench Script where
  compiler := { bindings := [("f", .callable { definitions := [{
    line := 4
    items := .lone (some {
      argTypes := .error (.foreign ⟨"OSError", "[Errno 5] Input/output error", .system⟩) }) }] })] }
  files := { entries := [(["work", "in.py"], .source .finishes)] }

/-- A name of 256 letters and an output are asked for. -/
theorem parse_longName : CommandLine.parse [Loading.longName, "out.txt"] =
    .ok (.run (argumentsFor Loading.longName "out.txt")) := by
  have hpositional : CommandLine.isPositional Loading.longName = true := by
    rw [CommandLine.isPositional, Loading.toList_longName]
    decide
  have hdashes : Loading.longName ≠ CommandLine.dashes := by
    intro hname
    exact absurd (Loading.toList_longName.symm.trans (congrArg String.toList hname)) (by decide)
  have hrow : CommandLine.IsRow [Loading.longName, "out.txt"]
      [.positional Loading.longName, .positional "out.txt"] Loading.longName "out.txt" :=
    { proper := List.forall_mem_cons.2 ⟨hpositional, List.forall_mem_singleton.2 (by decide)⟩
      spelled := by
        rw [CommandLine.dropLeadingDashes, if_neg hdashes]
        rfl
      named := rfl }
  exact CommandLine.parse_row hrow

/-- What arises in another place is blamed on the output wrongly. -/
theorem blamesOutput_of_arises {origin : Pipeline.Origin}
    (hparse : CommandLine.parse tokens = .ok (.run arguments))
    (harises : Arises toolchain arguments bench origin raised) (hother : origin ≠ .output) :
    BlamesOutput toolchain tokens bench arguments raised ∧
      ¬ Arises toolchain arguments bench .output raised := by
  have hrefused := Pipeline.generate_refused_iff.2 ⟨origin, harises⟩
  exact ⟨blamesOutput_iff_refused.2 ⟨hparse, hrefused⟩,
    fun houtput => hother (harises.unique houtput)⟩

/-- **The output is blamed for what arises elsewhere,** although it can be opened: for an input file
with a name that is too long, and for a call that is answered with a refusal. -/
theorem exists_blamed_elsewhere :
    (∃ (bench : Bench Script) (raised : Raised) (place : Place),
      bench.files.target "out.txt" = .ok place ∧
      BlamesOutput Script.toolchain [Loading.longName, "out.txt"] bench
        (argumentsFor Loading.longName "out.txt") raised ∧
      ¬ Arises Script.toolchain (argumentsFor Loading.longName "out.txt") bench .output raised) ∧
    ∃ (bench : Bench Script) (raised : Raised) (place : Place),
      bench.files.target "out.txt" = .ok place ∧
      BlamesOutput Script.toolchain ["in.py", "out.txt"] bench
        (argumentsFor "in.py" "out.txt") raised ∧
      ¬ Arises Script.toolchain (argumentsFor "in.py" "out.txt") bench .output raised := by
  constructor
  · obtain ⟨raised, hinput⟩ : ∃ raised, Arises Script.toolchain
        (argumentsFor Loading.longName "out.txt") { compiler := {} } .input raised :=
      ⟨_, .input rfl Loading.not_holdsNull_longName Loading.isOverlong_longName rfl⟩
    exact ⟨_, raised, ["work", "out.txt"], by decide +kernel,
      blamesOutput_of_arises parse_longName hinput nofun⟩
  · have hevent : ⟨.argTypes [0, 0, 0], some (.foreign ⟨"OSError", "[Errno 5] Input/output error",
        .system⟩)⟩ ∈ Pipeline.calls Script.toolchain (argumentsFor "in.py" "out.txt")
          refusingBench := by decide +kernel
    have hparse : CommandLine.parse ["in.py", "out.txt"] =
        .ok (.run (argumentsFor "in.py" "out.txt")) := by decide +kernel
    exact ⟨refusingBench, _, ["work", "out.txt"], by decide +kernel,
      blamesOutput_of_arises hparse (.call hevent trivial rfl rfl) nofun⟩

end Program

end JitExplorer
