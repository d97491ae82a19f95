/-
**The output of a run.**

A run extracts one specialization after the other and writes each before it extracts the next one.
So the output holds the blocks of the specializations in front of the first one that cannot be
extracted, and nothing else: nothing of the one that failed, however much of its text the compiler
had given, and nothing of what the file held before.  The failure ends the run, and the compiler is
asked for no stage of any later specialization.  The same holds of the first one that is extracted,
but has a line whose number cannot be written in a header.

All this is said of a device that takes what is written to it.

Main definitions:

* `Extraction.outcome` — what a compiler does when a specialization is extracted;
* `Pipeline.Extracted` — specializations that are extracted one after another;
* `Pipeline.Stops` — a specialization ends the writing;
* `Pipeline.Leaves` — what a run leaves in a file, and the state of the compiler;
* `Toolchain.Records` — a state of the compiler that records which stages it was asked for.

Main results:

* `Pipeline.writeAll_extracted` — specializations that are extracted are written;
* `Pipeline.exists_written` — either all specializations can be written, or a first one cannot;
* `Pipeline.exists_of_generate_ok` — a run that succeeds has written all specializations;
* `Pipeline.leaves_blocks_before_failure` — **what a run leaves behind**;
* `Pipeline.exists_unwritten_blocks` — runs that extract all specializations and do not write them.
-/

import JitExplorer.Proofs.Framing.RoundTrip
import JitExplorer.Proofs.Pipeline.Frames
import JitExplorer.Toolchain.Script
import Mathlib.Control.Monad.Basic
import Mathlib.Data.Prod.Basic

set_option autoImplicit false

namespace JitExplorer

/-- The text of a file that was just written. -/
theorem FileTree.node?_write (tree : FileTree) (place : Place) (content : String) :
    (tree.write place content).node? place = some (.text content) :=
  node?_put tree place (.text content)

variable {σ : Type}

/-! ### One specialization -/

namespace Extraction

/-- What a compiler does when a specialization is extracted: the stage text or the failure, and the
state that it is in afterwards. -/
def outcome (toolchain : Toolchain σ) (arguments : Arguments) (s : Specialization) (c : σ) :
    Except Failure StageOutput × σ :=
  ((extractFormat toolchain s arguments.format arguments.stageOptions { compiler := c }).1,
    (extractFormat toolchain s arguments.format arguments.stageOptions { compiler := c }).2.compiler)

variable {toolchain : Toolchain σ} {arguments : Arguments} {s : Specialization}

/-- Extracting at a bench does what the compiler does, and logs. -/
theorem extractFormat_of_outcome (bench : Bench σ) {result : Except Failure StageOutput} {next : σ}
    (h : outcome toolchain arguments s bench.compiler = (result, next)) :
    ∃ log, extractFormat toolchain s arguments.format arguments.stageOptions bench =
      (result, { bench with compiler := next, log }) := by
  obtain ⟨rfl, rfl⟩ := Prod.mk.inj h
  exact ⟨_, asksOnly_extractFormat toolchain s arguments.format arguments.stageOptions bench⟩

/-- A format that names no stage fails, and the compiler is not asked. -/
theorem outcome_of_stageOf_error {failure : Failure}
    (h : stageOf arguments.format = .error failure) (s : Specialization) (c : σ) :
    outcome toolchain arguments s c = (.error failure, c) := by
  simp only [outcome, extractFormat, h]
  rfl

theorem exists_ofText_of_outcome {c next : σ} {output : StageOutput}
    (h : outcome toolchain arguments s c = (.ok output, next)) :
    ∃ text, output = StageOutput.ofText text := by
  obtain ⟨log, hextract⟩ := extractFormat_of_outcome { compiler := c } h
  exact exists_ofText_of_extractFormat toolchain s hextract

end Extraction

/-! ### What the compiler was asked for -/

/-- Part of the state of a compiler records the specializations of which it was asked for a stage,
in order. -/
structure Toolchain.Records {α : Type} (toolchain : Toolchain σ) (asked : σ → List α)
    (entry : Specialization → α) : Prop where
  emit : ∀ stage s options c,
    asked (toolchain.emit stage s options c).state = asked c ++ [entry s]
  supportsCodegenParams : ∀ c, asked (toolchain.supportsCodegenParams c).state = asked c

section Records

variable {α β γ : Type} {asked : σ → List α}

/-- A job asks for stages as recorded by some entries, in order, and stops early only if it
fails. -/
def Job.AsksFor (asked : σ → List α) (entries : List α) (job : Job σ β) : Prop :=
  ∀ bench, ∃ front, front <+: entries ∧
    asked (job bench).2.compiler = asked bench.compiler ++ front ∧
      ∀ b, (job bench).1 = .ok b → front = entries

/-- A job that does not change the compiler asks for nothing. -/
theorem Job.asksFor_nil {job : Job σ β}
    (h : ∀ bench, asked (job bench).2.compiler = asked bench.compiler) :
    Job.AsksFor asked [] job :=
  fun bench => ⟨[], List.prefix_refl [], by rw [h bench, List.append_nil], fun _ _ => rfl⟩

/-- Jobs one after another ask for one thing after another. -/
theorem Job.AsksFor.bind {job : Job σ β} {next : β → Job σ γ} {entries others : List α}
    (h : Job.AsksFor asked entries job) (hnext : ∀ b, Job.AsksFor asked others (next b)) :
    Job.AsksFor asked (entries ++ others) (job >>= next) := by
  intro bench
  obtain ⟨front, hprefix, hasked, hall⟩ := h bench
  rw [Act.bind_apply]
  cases hjob : job bench with
  | mk result after =>
      rw [hjob] at hasked hall
      cases result with
      | error failure =>
          rw [Act.bind_error next hjob]
          exact ⟨front, hprefix.trans (List.prefix_append entries others), hasked,
            fun _ hok => nomatch hok⟩
      | ok b =>
          obtain ⟨back, hback, hlater, hrest⟩ := hnext b after
          obtain rfl := hall b rfl
          rw [Act.bind_ok next hjob]
          refine ⟨front ++ back, (List.prefix_append_right_inj front).2 hback, ?_, ?_⟩
          · rw [hlater, hasked, List.append_assoc]
          · exact fun c hc => congrArg (front ++ ·) (hrest c hc)

theorem Job.AsksFor.ascribed {job : Job σ β} {entries : List α}
    (h : Job.AsksFor asked entries job) (s : Specialization) (stage : Stage) :
    Job.AsksFor asked entries (Extraction.ascribed s stage job) := by
  intro bench
  have hbench := h bench
  unfold Extraction.ascribed
  rcases hjob : job bench with ⟨_ | b, after⟩
  · obtain ⟨front, hprefix, hasked, -⟩ := hbench
    rw [hjob] at hasked
    exact ⟨front, hprefix, hasked, fun _ hok => nomatch hok⟩
  · rwa [hjob] at hbench

variable {toolchain : Toolchain σ} {entry : Specialization → α}

/-- **Extracting a specialization asks for one stage of it,** unless it fails before. -/
theorem Toolchain.Records.asksFor_outcome (h : toolchain.Records asked entry)
    (arguments : Arguments) (s : Specialization) {c next : σ}
    {result : Except Failure StageOutput}
    (houtcome : Extraction.outcome toolchain arguments s c = (result, next)) :
    ∃ front, front <+: [entry s] ∧ asked next = asked c ++ front ∧
      ∀ output, result = .ok output → front = [entry s] := by
  have hsettings : ∀ stage options,
      Job.AsksFor asked [] (Extraction.settings toolchain stage options) := by
    intro stage options
    unfold Extraction.settings
    split
    · have hsupports : Job.AsksFor asked [] (Job.ask toolchain.supportsCodegenParams) :=
        Job.asksFor_nil fun bench => h.supportsCodegenParams bench.compiler
      exact hsupports.bind fun _ => Job.asksFor_nil fun _ => rfl
    · exact Job.asksFor_nil fun _ => rfl
  have hwritten : ∀ stage options,
      Job.AsksFor asked [entry s] (Extraction.written toolchain s stage options) :=
    fun stage options bench =>
      ⟨[entry s], List.prefix_refl _, h.emit stage s options bench.compiler, fun _ _ => rfl⟩
  have hextract : Job.AsksFor asked [entry s]
      (Extraction.extractFormat toolchain s arguments.format arguments.stageOptions) := by
    have hstage : Job.AsksFor asked [] (Act.ofExcept (Extraction.stageOf arguments.format) :
        Job σ Stage) := Job.asksFor_nil fun _ => rfl
    have hlog : ∀ level message output, Job.AsksFor asked []
        (Job.log level message >>= fun _ => pure output : Job σ StageOutput) :=
      fun level message output => Job.asksFor_nil fun _ => rfl
    refine hstage.bind fun stage => ?_
    exact (((hsettings stage _).bind fun options => hwritten stage options).ascribed s stage).bind
      fun _ => hlog _ _ _
  obtain ⟨rfl, rfl⟩ := Prod.mk.inj houtcome
  exact hextract { compiler := c }

end Records

/-! ### Specializations one after another -/

namespace Pipeline

/-- Some specializations are extracted one after another with the given stage texts, while the
compiler goes from one state to another. -/
inductive Extracted (toolchain : Toolchain σ) (arguments : Arguments) :
    σ → List (Specialization × StageOutput) → σ → Prop where
  | nil (c : σ) : Extracted toolchain arguments c [] c
  | cons {c next last : σ} {s : Specialization} {output : StageOutput}
      {others : List (Specialization × StageOutput)} :
      Extraction.outcome toolchain arguments s c = (.ok output, next) →
      Extracted toolchain arguments next others last →
      Extracted toolchain arguments c ((s, output) :: others) last

/-- What is written for specializations with their stage texts. -/
def entriesOf (written : List (Specialization × StageOutput)) : List Framing.Entry :=
  written.map fun w => entryOf w.1 w.2

variable {toolchain : Toolchain σ} {arguments : Arguments} {c last : σ}
  {written : List (Specialization × StageOutput)}

/-- A specialization ends the writing in a state of the compiler, with a failure and in another
state: it is not extracted, or a number of its header has too many digits. -/
inductive Stops (toolchain : Toolchain σ) (arguments : Arguments) (c : σ) (s : Specialization) :
    Failure → σ → Prop where
  | unextracted {failure : Failure} {next : σ}
      (hfails : Extraction.outcome toolchain arguments s c = (.error failure, next)) :
      Stops toolchain arguments c s failure next
  | oversized {output : StageOutput} {next : σ}
      (hextracts : Extraction.outcome toolchain arguments s c = (.ok output, next))
      (hlong : ¬ (entryOf s output).HasShortNumbers) :
      Stops toolchain arguments c s .oversized next

/-- A specialization that ends the writing was to be extracted. -/
theorem Stops.exists_outcome {toolchain : Toolchain σ} {arguments : Arguments} {c next : σ}
    {s : Specialization} {failure : Failure} (h : Stops toolchain arguments c s failure next) :
    ∃ result, Extraction.outcome toolchain arguments s c = (result, next) := by
  cases h with
  | unextracted hfails => exact ⟨_, hfails⟩
  | oversized hextracts _ => exact ⟨_, hextracts⟩

/-- Either all specializations can be written, or there is a first one that cannot. -/
theorem exists_written (toolchain : Toolchain σ) (arguments : Arguments)
    (found : List Specialization) (c : σ) :
    ∃ written last, Extracted toolchain arguments c written last ∧
      (∀ entry ∈ entriesOf written, entry.HasShortNumbers) ∧
      (found = written.map Prod.fst ∨
        ∃ s others failure next, found = written.map Prod.fst ++ s :: others ∧
          Stops toolchain arguments last s failure next) := by
  induction found generalizing c with
  | nil => exact ⟨[], c, .nil c, List.forall_mem_nil _, .inl rfl⟩
  | cons s found ih =>
      rcases houtcome : Extraction.outcome toolchain arguments s c with ⟨failure | output, next⟩
      · exact ⟨[], c, .nil c, List.forall_mem_nil _,
          .inr ⟨s, found, failure, next, rfl, .unextracted houtcome⟩⟩
      · by_cases hshort : (entryOf s output).HasShortNumbers
        · obtain ⟨written, last, hextracted, hall, hrest⟩ := ih next
          refine ⟨(s, output) :: written, last, .cons houtcome hextracted,
            List.forall_mem_cons.2 ⟨hshort, hall⟩, ?_⟩
          rcases hrest with hfound | ⟨t, others, failure, after, hfound, hstops⟩
          · exact .inl (by simp [hfound])
          · exact .inr ⟨t, others, failure, after, by simp [hfound], hstops⟩
        · exact ⟨[], c, .nil c, List.forall_mem_nil _,
            .inr ⟨s, found, .oversized, next, rfl, .oversized houtcome hshort⟩⟩

/-- The texts that are written are stage texts. -/
theorem Extracted.exists_ofText (h : Extracted toolchain arguments c written last) :
    ∀ entry ∈ entriesOf written, ∃ text, entry.output = StageOutput.ofText text := by
  induction h with
  | nil c => simp [entriesOf]
  | cons houtcome _ ih =>
      exact List.forall_mem_cons.2 ⟨Extraction.exists_ofText_of_outcome houtcome, ih⟩

/-- The compiler was asked for one stage of every specialization that was extracted. -/
theorem Extracted.asked {α : Type} {asked : σ → List α} {entry : Specialization → α}
    (h : Extracted toolchain arguments c written last) (hrecords : toolchain.Records asked entry) :
    asked last = asked c ++ written.map fun w => entry w.1 := by
  induction h with
  | nil c => simp
  | @cons c next last s output others houtcome _ ih =>
      obtain ⟨front, -, hasked, hfront⟩ := hrecords.asksFor_outcome arguments s houtcome
      obtain rfl := hfront output rfl
      rw [ih, hasked, List.append_assoc]
      rfl

/-! ### Writing -/

/-- A text that is written comes behind what the file holds. -/
theorem writeText_of_ok {place : Place} {text : String} {bench after : Bench σ}
    (h : writeText place text bench = (.ok (), after)) :
    after = { bench with
      files := bench.files.write place (bench.files.contentAt place ++ text) } := by
  unfold writeText Job.onFiles at h
  dsimp only at h
  split at h
  · cases h
    rfl
  · cases h

theorem writeText_of_takesAll {bench : Bench σ} (h : bench.host.device.TakesAll) (place : Place)
    (files : FileTree) (text : String) :
    writeText place text { bench with files } = (.ok (), { bench with
      files := files.write place (files.contentAt place ++ text) }) := by
  simp only [writeText, Job.onFiles, h.writing]

/-- **An entry that is written comes behind what the file holds,** and its numbers are short. -/
theorem writeBlock_of_ok {place : Place} {entry : Framing.Entry} {bench after : Bench σ}
    (h : writeBlock place entry bench = (.ok (), after)) :
    entry.HasShortNumbers ∧ ∃ files, after = { bench with files } ∧
      files.node? place =
        some (.text (bench.files.contentAt place ++ Framing.writeEntry entry)) := by
  by_cases hshort : entry.HasShortNumbers
  · rw [writeBlock, Framing.formatHeader_of_hasShortNumbers hshort,
      Act.ofExcept_ok_bind_apply] at h
    obtain ⟨_, first, hfirst, h⟩ := Act.exists_of_bind_ok h
    obtain ⟨_, second, hsecond, h⟩ := Act.exists_of_bind_ok h
    obtain ⟨_, third, hthird, hfourth⟩ := Act.exists_of_bind_ok h
    obtain rfl := writeText_of_ok hfirst
    obtain rfl := writeText_of_ok hsecond
    obtain rfl := writeText_of_ok hthird
    obtain rfl := writeText_of_ok hfourth
    refine ⟨hshort, _, rfl, ?_⟩
    rw [FileTree.node?_write]
    simp only [FileTree.contentAt_write, Framing.writeEntry, String.append_assoc]
  · rw [writeBlock, Framing.formatHeader_of_not_hasShortNumbers hshort,
      Act.ofExcept_error_bind_apply] at h
    cases h

theorem writeBlock_of_takesAll {bench : Bench σ} (h : bench.host.device.TakesAll) (place : Place)
    {entry : Framing.Entry} (hshort : entry.HasShortNumbers) :
    ∃ after, writeBlock place entry bench = (.ok (), after) := by
  have htaken := writeText_of_takesAll h place
  rw [writeBlock, Framing.formatHeader_of_hasShortNumbers hshort, Act.ofExcept_ok_bind_apply,
    Act.bind_apply, Act.bind_ok _ (htaken bench.files _), Act.bind_apply,
    Act.bind_ok _ (htaken _ _), Act.bind_apply, Act.bind_ok _ (htaken _ _)]
  exact ⟨_, htaken _ _⟩

/-- Nothing of an entry is written if its header cannot be written. -/
theorem writeBlock_of_not_hasShortNumbers (place : Place) {entry : Framing.Entry}
    (h : ¬ entry.HasShortNumbers) (bench : Bench σ) :
    writeBlock place entry bench = (.error .oversized, bench) := by
  rw [writeBlock, Framing.formatHeader_of_not_hasShortNumbers h, Act.ofExcept_error_bind_apply]

theorem contentAt_of_node? {files : FileTree} {place : Place} {content : String}
    (h : files.node? place = some (.text content)) : files.contentAt place = content := by
  rw [FileTree.contentAt, h]

/-- **Specializations that are extracted are written one after another,** and then the others
are. -/
theorem writeAll_extracted (place : Place) (h : Extracted toolchain arguments c written last)
    (hshort : ∀ entry ∈ entriesOf written, entry.HasShortNumbers) (others : List Specialization)
    (bench : Bench σ) {old : String} (hcompiler : bench.compiler = c)
    (htakes : bench.host.device.TakesAll)
    (hold : bench.files.node? place = some (.text old)) :
    ∃ after, writeAll toolchain arguments place (written.map Prod.fst ++ others) bench =
        writeAll toolchain arguments place others after ∧
      after.compiler = last ∧ after.host = bench.host ∧
      after.files.node? place = some (.text (old ++ Framing.write (entriesOf written))) := by
  induction h generalizing bench old with
  | nil c => exact ⟨bench, rfl, hcompiler, rfl, by simpa [entriesOf, Framing.write] using hold⟩
  | @cons c next last s output rest houtcome _ ih =>
      subst hcompiler
      obtain ⟨hfirst, hrest⟩ := List.forall_mem_cons.1 hshort
      obtain ⟨log, hextract⟩ := Extraction.extractFormat_of_outcome bench houtcome
      obtain ⟨between, hblock⟩ := writeBlock_of_takesAll
        (show ({ bench with compiler := next, log } : Bench σ).host.device.TakesAll from htakes)
        place hfirst
      obtain ⟨-, files, rfl, hcontent⟩ := writeBlock_of_ok hblock
      rw [contentAt_of_node? hold] at hcontent
      obtain ⟨after, hwrite, hlast, hhost, hall⟩ :=
        ih hrest { bench with compiler := next, files, log } rfl htakes hcontent
      refine ⟨after, ?_, hlast, hhost, ?_⟩
      · rw [List.map_cons, List.cons_append, writeAll, Act.bind_apply, Act.bind_ok _ hextract,
          Act.bind_apply, Act.bind_ok _ hblock]
        exact hwrite
      · rw [hall, String.append_assoc]
        rfl

/-- A specialization that ends the writing leaves the files as they are. -/
theorem writeAll_stops (place : Place) {s : Specialization} {failure : Failure} {next : σ}
    {bench : Bench σ} (others : List Specialization)
    (h : Stops toolchain arguments bench.compiler s failure next) :
    ∃ log, writeAll toolchain arguments place (s :: others) bench =
      (.error failure, { bench with compiler := next, log }) := by
  cases h with
  | unextracted hfails =>
      obtain ⟨log, hextract⟩ := Extraction.extractFormat_of_outcome bench hfails
      exact ⟨log, by rw [writeAll, Act.bind_apply, Act.bind_error _ hextract]⟩
  | oversized hextracts hlong =>
      obtain ⟨log, hextract⟩ := Extraction.extractFormat_of_outcome bench hextracts
      refine ⟨log, ?_⟩
      rw [writeAll, Act.bind_apply, Act.bind_ok _ hextract, Act.bind_apply,
        Act.bind_error _ (writeBlock_of_not_hasShortNumbers place hlong _)]

/-- **What is written without a failure is extracted,** whatever the device is. -/
theorem exists_of_writeAll_ok {place : Place} {found : List Specialization} {bench after : Bench σ}
    {old : String} (hold : bench.files.node? place = some (.text old))
    (h : writeAll toolchain arguments place found bench = (.ok (), after)) :
    ∃ written last, Extracted toolchain arguments bench.compiler written last ∧
      found = written.map Prod.fst ∧ after.compiler = last ∧
      after.files.node? place = some (.text (old ++ Framing.write (entriesOf written))) := by
  induction found generalizing bench old with
  | nil =>
      cases h
      exact ⟨[], _, .nil _, rfl, rfl, by simpa [entriesOf, Framing.write] using hold⟩
  | cons s found ih =>
      rcases houtcome : Extraction.outcome toolchain arguments s bench.compiler with
        ⟨failure | output, next⟩
      · obtain ⟨log, hstop⟩ := writeAll_stops place found (.unextracted houtcome)
        cases h.symm.trans hstop
      · obtain ⟨log, hextract⟩ := Extraction.extractFormat_of_outcome bench houtcome
        rw [writeAll, Act.bind_apply, Act.bind_ok _ hextract] at h
        obtain ⟨_, between, hblock, hrest⟩ := Act.exists_of_bind_ok h
        obtain ⟨-, files, rfl, hcontent⟩ := writeBlock_of_ok hblock
        rw [contentAt_of_node? hold] at hcontent
        obtain ⟨written, last, hextracted, rfl, hlast, hall⟩ := ih hcontent hrest
        refine ⟨(s, output) :: written, last, .cons houtcome hextracted, rfl, hlast, ?_⟩
        rw [hall, String.append_assoc]
        rfl

/-! ### Opening and closing -/

/-- A path is opened for writing at a place. -/
structure Opens (bench : Bench σ) (path : String) (place : Place) : Prop where
  target : bench.files.target path = .ok place
  opening : bench.host.device.opening path = none

/-- The output is opened, and is empty then. -/
theorem openOutput_of_opens {path : String} {place : Place} {bench : Bench σ}
    (h : Opens bench path place) :
    openOutput path bench = (.ok place, { bench with files := bench.files.write place "" }) := by
  simp only [openOutput, Job.onFiles, h.target, h.opening]

theorem opens_of_openOutput {path : String} {place : Place} {bench opened : Bench σ}
    (h : openOutput path bench = (.ok place, opened)) : Opens bench path place := by
  unfold openOutput Job.onFiles at h
  cases htarget : bench.files.target path with
  | error refusal =>
      simp only [htarget] at h
      cases h
  | ok found =>
      cases hopening : bench.host.device.opening path with
      | some raised =>
          simp only [htarget, hopening] at h
          cases h
      | none =>
          simp only [htarget, hopening] at h
          cases h
          exact ⟨htarget, hopening⟩

/-- A device that takes all is closed without more ado. -/
theorem closing_of_takesAll (place : Place) {job : Job σ Unit} {bench : Bench σ}
    (h : (job bench).2.host.device.TakesAll) : closing place job bench = job bench := by
  have hclose : closeOutput place (job bench).2 = (.ok (), (job bench).2) := by
    simp only [closeOutput, Job.onFiles, h.closing]
  unfold closing
  rcases hjob : job bench with ⟨failure | done, after⟩
  · rw [hjob] at hclose
    dsimp only
    split
    · rfl
    · rw [Act.bind_apply, Act.bind_ok _ hclose]
      rfl
  · rw [hjob] at hclose
    exact hclose

/-- What is closed without a failure has not failed before, and the closing changes nothing. -/
theorem of_closing_ok {place : Place} {job : Job σ Unit} {bench after : Bench σ}
    (h : closing place job bench = (.ok (), after)) : job bench = (.ok (), after) := by
  unfold closing at h
  rcases hjob : job bench with ⟨failure | done, between⟩
  · simp only [hjob] at h
    split at h
    · cases h
    · obtain ⟨_, _, -, hfail⟩ := Act.exists_of_bind_ok h
      cases hfail
  · simp only [hjob] at h
    unfold closeOutput Job.onFiles at h
    dsimp only at h
    split at h
    · cases h
      rfl
    · cases h

/-! ### What a run leaves behind -/

/-- What a run leaves at a bench: in the file at a place there are the blocks of the specializations
that were written and nothing else, the compiler is in a given state, and the blocks are read back
if no field of them breaks its header line and their numbers are short. -/
structure Leaves (place : Place) (written : List (Specialization × StageOutput)) (last : σ)
    (bench : Bench σ) : Prop where
  content : bench.files.node? place = some (.text (Framing.write (entriesOf written)))
  compiler : bench.compiler = last
  readBack : (∀ entry ∈ entriesOf written, entry.KeepsHeader ∧ entry.HasShortNumbers) →
    Framing.read (Framing.write (entriesOf written)) =
      .ok ((entriesOf written).map Framing.Entry.block)

section Generate

variable {bench prepared : Bench σ} {context : Context} {found : List Specialization}
  {place : Place}

/-- Until its output is opened, a run leaves the host alone. -/
theorem host_of_enumerated
    (hfound : enumerated toolchain arguments bench = (.ok (context, found), prepared)) :
    prepared.host = bench.host := by
  have hcompiles := compilesOnly_enumerated toolchain arguments bench
  rw [hfound] at hcompiles
  exact hcompiles.2

/-- A run that opens its output begins to write at an empty file. -/
theorem generate_of_opens
    (hfound : enumerated toolchain arguments bench = (.ok (context, found), prepared))
    (hopens : Opens prepared arguments.outputPath place) :
    ∃ message, generate toolchain arguments bench =
      (do
        closing place (writeAll toolchain arguments place found)
        Job.log .debug message
        pure found.length : Job σ Nat)
        { prepared with files := prepared.files.write place "" } := by
  have hgenerate : generate toolchain arguments bench =
      outputWritten toolchain arguments context found prepared := by
    rw [generate_eq_bind, Act.bind_apply, Act.bind_ok _ hfound]
  rw [outputWritten, Act.bind_apply, Act.bind_ok _ (openOutput_of_opens hopens)] at hgenerate
  exact ⟨_, hgenerate⟩

/-- A run leaves the blocks of all specializations if all can be written. -/
theorem generate_of_extracted
    (hfound : enumerated toolchain arguments bench = (.ok (context, found), prepared))
    (hopens : Opens prepared arguments.outputPath place) (htakes : bench.host.device.TakesAll)
    (hextracted : Extracted toolchain arguments prepared.compiler written last)
    (hshort : ∀ entry ∈ entriesOf written, entry.HasShortNumbers)
    (hall : found = written.map Prod.fst) :
    ∃ after, generate toolchain arguments bench = (.ok found.length, after) ∧
      Leaves place written last after := by
  rw [← host_of_enumerated hfound] at htakes
  obtain ⟨message, hgenerate⟩ := generate_of_opens hfound hopens
  obtain ⟨after, hwrite, hlast, hhost, hcontent⟩ := writeAll_extracted place hextracted hshort []
    { prepared with files := prepared.files.write place "" } rfl htakes
    (FileTree.node?_write prepared.files place "")
  rw [List.append_nil, ← hall] at hwrite
  have hclosed : closing place (writeAll toolchain arguments place found) _ = _ :=
    (closing_of_takesAll place (by rw [hwrite]; exact hhost ▸ htakes)).trans hwrite
  rw [hgenerate, Act.bind_apply, Act.bind_ok _ hclosed]
  refine ⟨_, rfl, ?_, hlast, ?_⟩
  · simpa using hcontent
  · exact Framing.read_write_of_keepsHeader hextracted.exists_ofText

/-- A run leaves the blocks of the specializations in front of the first one that cannot be
written, and fails like that one. -/
theorem generate_of_stops
    (hfound : enumerated toolchain arguments bench = (.ok (context, found), prepared))
    (hopens : Opens prepared arguments.outputPath place) (htakes : bench.host.device.TakesAll)
    (hextracted : Extracted toolchain arguments prepared.compiler written c)
    (hshort : ∀ entry ∈ entriesOf written, entry.HasShortNumbers)
    {s : Specialization} (others : List Specialization) {failure : Failure}
    (hsplit : found = written.map Prod.fst ++ s :: others)
    (hstops : Stops toolchain arguments c s failure last) :
    ∃ after, generate toolchain arguments bench = (.error failure, after) ∧
      Leaves place written last after := by
  rw [← host_of_enumerated hfound] at htakes
  obtain ⟨message, hgenerate⟩ := generate_of_opens hfound hopens
  obtain ⟨after, hwrite, rfl, hhost, hcontent⟩ := writeAll_extracted place hextracted hshort
    (s :: others) { prepared with files := prepared.files.write place "" } rfl htakes
    (FileTree.node?_write prepared.files place "")
  obtain ⟨log, hstop⟩ := writeAll_stops place others hstops
  rw [← hsplit, hstop] at hwrite
  have hclosed : closing place (writeAll toolchain arguments place found) _ = _ :=
    (closing_of_takesAll place (by rw [hwrite]; exact hhost ▸ htakes)).trans hwrite
  rw [hgenerate, Act.bind_apply, Act.bind_error _ hclosed]
  refine ⟨_, rfl, ?_, rfl, ?_⟩
  · simpa using hcontent
  · exact Framing.read_write_of_keepsHeader hextracted.exists_ofText

/-- A run that succeeds has opened its output and has written all specializations, whatever the
device is. -/
theorem exists_of_generate_ok {n : Nat} {after : Bench σ}
    (h : generate toolchain arguments bench = (.ok n, after)) :
    ∃ context found prepared place written last,
      enumerated toolchain arguments bench = (.ok (context, found), prepared) ∧
      prepared.files.target arguments.outputPath = .ok place ∧
      Extracted toolchain arguments prepared.compiler written last ∧
      found = written.map Prod.fst ∧ n = found.length ∧ Leaves place written last after := by
  have hparts := h
  rw [generate_eq_bind] at hparts
  obtain ⟨⟨context, found⟩, prepared, hfound, hwritten⟩ := Act.exists_of_bind_ok hparts
  obtain ⟨place, opened, hopen, hbehind⟩ := Act.exists_of_bind_ok hwritten
  have hopens := opens_of_openOutput hopen
  cases (openOutput_of_opens hopens).symm.trans hopen
  obtain ⟨_, closed, hclosed, hlogged⟩ := Act.exists_of_bind_ok hbehind
  obtain ⟨written, last, hextracted, hall, hlast, hcontent⟩ :=
    exists_of_writeAll_ok (FileTree.node?_write prepared.files place "") (of_closing_ok hclosed)
  cases hlogged
  refine ⟨context, found, prepared, place, written, last, hfound, hopens.target, hextracted, hall,
    rfl, ?_, hlast, ?_⟩
  · simpa using hcontent
  · exact Framing.read_write_of_keepsHeader hextracted.exists_ofText

/-- **What a run leaves behind.**  If all specializations can be written, it succeeds and leaves
their blocks.  If a first one cannot, because it is not extracted or its header has a number with
too many digits, the run fails like that one and leaves the blocks of those in front of it, and the
compiler is asked for no stage of any other one.  One of the two happens.  A format that names no
stage fails at the first specialization, before the compiler is asked. -/
theorem leaves_blocks_before_failure (toolchain : Toolchain σ) (arguments : Arguments)
    {bench prepared : Bench σ} {context : Context} {found : List Specialization} {place : Place}
    (hfound : enumerated toolchain arguments bench = (.ok (context, found), prepared))
    (hopens : Opens prepared arguments.outputPath place) (htakes : bench.host.device.TakesAll) :
    (∀ written last, Extracted toolchain arguments prepared.compiler written last →
      (∀ entry ∈ entriesOf written, entry.HasShortNumbers) → found = written.map Prod.fst →
        ∃ after, generate toolchain arguments bench = (.ok found.length, after) ∧
          Leaves place written last after) ∧
    (∀ written c s others failure last, Extracted toolchain arguments prepared.compiler written c →
      (∀ entry ∈ entriesOf written, entry.HasShortNumbers) →
        found = written.map Prod.fst ++ s :: others →
          Stops toolchain arguments c s failure last →
            (∃ after, generate toolchain arguments bench = (.error failure, after) ∧
              Leaves place written last after) ∧
            ∀ (α : Type) (asked : σ → List α) (entry : Specialization → α),
              toolchain.Records asked entry → ∃ front, front <+: [entry s] ∧
                asked last = asked prepared.compiler ++ written.map (entry ∘ Prod.fst) ++ front) ∧
    (∃ written c, Extracted toolchain arguments prepared.compiler written c ∧
      (∀ entry ∈ entriesOf written, entry.HasShortNumbers) ∧
      (found = written.map Prod.fst ∨
        ∃ s others failure last, found = written.map Prod.fst ++ s :: others ∧
          Stops toolchain arguments c s failure last)) ∧
    (arguments.format.text?.bind Stage.ofText? = none → found ≠ [] →
      ∃ after, generate toolchain arguments bench =
          (.error (.explorer (.extraction (.unknownFormat arguments.format))), after) ∧
        Leaves place [] prepared.compiler after) := by
  refine ⟨?_, ?_, exists_written toolchain arguments found prepared.compiler, ?_⟩
  · intro written last hextracted hshort hall
    exact generate_of_extracted hfound hopens htakes hextracted hshort hall
  · intro written c s others failure last hextracted hshort hsplit hstops
    refine ⟨generate_of_stops hfound hopens htakes hextracted hshort others hsplit hstops, ?_⟩
    intro α asked entry hrecords
    obtain ⟨result, houtcome⟩ := hstops.exists_outcome
    obtain ⟨front, hfront, hasked, -⟩ := hrecords.asksFor_outcome arguments s houtcome
    refine ⟨front, hfront, ?_⟩
    rw [hasked, hextracted.asked hrecords]
    rfl
  · intro hformat hsome
    obtain ⟨s, others, rfl⟩ := List.exists_cons_of_ne_nil hsome
    have hstage : Extraction.stageOf arguments.format =
        .error (.explorer (.extraction (.unknownFormat arguments.format))) := by
      rw [Extraction.stageOf, hformat]
    exact generate_of_stops hfound hopens htakes (.nil prepared.compiler) (List.forall_mem_nil _)
      others rfl (.unextracted (Extraction.outcome_of_stageOf_error hstage s prepared.compiler))

end Generate

/-- A script with three callables, of which the second one raises after its text was written. -/
def failingScript : Script where
  bindings := [("f", callable "x" []), ("g", callable "y" [(.native, .ordinary "KeyError" "k")]),
    ("h", callable "z" [])]
where
  callable (text : String) (faults : List (Stage × Failure)) : Binding Script.Function :=
    .callable { definitions := [{
      line := 4
      items := .lone (some { argTypes := .ok ["int32"], texts := [(.native, text)], faults }) }] }

/-- Arguments for a source and an output. -/
def nativeArguments : Arguments where
  format := .text "native"
  debugInfo := .default
  optimize := true
  verbose := false
  inputFile := "in.py"
  outputPath := "out.txt"

/-- A bench with a source, and with a file of an older run in the place of the output. -/
def usedBench : Bench Script where
  compiler := failingScript
  files := { entries := [(["work", "in.py"], .source .finishes),
    (["work", "out.txt"], .text "<9 1 old >\nold\n\n")] }

/-- The names of the specializations of which a script was asked for a stage. -/
def emittedNames (script : Script) : List String :=
  script.calls.filterMap fun
    | .emit _ name _ => some name
    | _ => none

/-- A script records the names of the specializations of which it is asked for a stage. -/
theorem records_emittedNames :
    Script.toolchain.Records emittedNames fun s => s.callable.name where
  emit stage s options script := by
    simp [Script.toolchain, Script.emit, Script.record, emittedNames]
  supportsCodegenParams script := rfl

/-- Of three callables the first one is written, the second one fails, and the third one is not
asked for. -/
theorem leaves_blocks_before_second :
    ∃ context found prepared after,
      enumerated Script.toolchain nativeArguments usedBench = (.ok (context, found), prepared) ∧
      Opens prepared nativeArguments.outputPath ["work", "out.txt"] ∧
      usedBench.host.device.TakesAll ∧
      generate Script.toolchain nativeArguments usedBench =
        (.error (.explorer (.extraction (.raised .native "g" ["int32"]
          { kind := "KeyError", text := "k" }))), after) ∧
      after.files.node? ["work", "out.txt"] = some (.text "<4 1 f int32>\nx\n\n") ∧
      emittedNames after.compiler <+: ["f", "g"] := by
  -- The third specialization is found, but nothing below asks for it.
  let f : Specialization := ⟨⟨"f", [0]⟩, ["int32"], ⟨⟨"f", [0]⟩, 4, [0, 0]⟩, [0, 0, 0]⟩
  let g : Specialization := ⟨⟨"g", [1]⟩, ["int32"], ⟨⟨"g", [1]⟩, 4, [1, 0]⟩, [1, 0, 0]⟩
  let h : Specialization := ⟨⟨"h", [2]⟩, ["int32"], ⟨⟨"h", [2]⟩, 4, [2, 0]⟩, [2, 0, 0]⟩
  let prepared := (enumerated Script.toolchain nativeArguments usedBench).2
  let c := (Extraction.outcome Script.toolchain nativeArguments f prepared.compiler).2
  have hfound : enumerated Script.toolchain nativeArguments usedBench =
      (.ok (⟨"numba_explorer_input_0", "/work/in.py"⟩, [f, g, h]), prepared) :=
    Prod.fst_eq_iff.1 (by decide +kernel)
  have hopens : Opens prepared nativeArguments.outputPath ["work", "out.txt"] :=
    ⟨by decide +kernel, by decide +kernel⟩
  have htakes : usedBench.host.device.TakesAll := ⟨fun _ _ => rfl, fun _ => rfl⟩
  have hshort : ∀ entry ∈ entriesOf [(f, ({ text := "x\n", lineCount := 1 } : StageOutput))],
      entry.HasShortNumbers :=
    List.forall_mem_singleton.2 ⟨by decide +kernel, by decide +kernel⟩
  have hextracted : Extracted Script.toolchain nativeArguments prepared.compiler
      [(f, { text := "x\n", lineCount := 1 })] c :=
    .cons (Prod.fst_eq_iff.1 (by decide +kernel)) (.nil c)
  have hfails : Extraction.outcome Script.toolchain nativeArguments g c =
      (.error (.explorer (.extraction (.raised .native "g" ["int32"]
        { kind := "KeyError", text := "k" }))),
        (Extraction.outcome Script.toolchain nativeArguments g c).2) :=
    Prod.fst_eq_iff.1 (by decide +kernel)
  obtain ⟨-, hstop, -⟩ :=
    leaves_blocks_before_failure Script.toolchain nativeArguments hfound hopens htakes
  obtain ⟨⟨after, hgenerate, hleaves⟩, hasked⟩ :=
    hstop _ c g [h] _ _ hextracted hshort rfl (.unextracted hfails)
  refine ⟨_, _, prepared, after, hfound, hopens, htakes, hgenerate, ?_, ?_⟩
  · rw [hleaves.content]
    decide +kernel
  · obtain ⟨front, hfront, hnames⟩ := hasked String emittedNames _ records_emittedNames
    have hnone : emittedNames prepared.compiler = [] := by decide +kernel
    rw [hleaves.compiler, hnames, hnone]
    exact (List.prefix_append_right_inj ["f"]).2 hfront

/-- A line whose number has 4301 digits. -/
@[irreducible] def farLine : Nat :=
  Nat.pow 10 Text.maxDigits

theorem maxDigits_lt_length_farLine : Text.maxDigits < (Text.natDigits farLine).length :=
  Text.lt_length_natDigits (by unfold farLine; exact Nat.le_refl _)

/-- A script with callables at given lines. -/
def linesScript (callables : List (String × Int)) : Script where
  bindings := callables.map fun callable => (callable.1, .callable { definitions := [{
    line := callable.2
    items := .lone (some { argTypes := .ok ["int32"], texts := [(.native, "x")] }) }] })

/-- A bench with two callables, of which the second one has the line whose number is too long. -/
def farBench : Bench Script where
  compiler := linesScript [("f", 4), ("g", farLine)]
  files := { entries := [(["work", "in.py"], .source .finishes)] }

/-- What a full device refuses with. -/
def noSpace : Raised :=
  ⟨"OSError", "[Errno 28] No space left on device", .system⟩

/-- A bench with one callable, and with a device that takes nothing. -/
def fullBench : Bench Script where
  compiler := linesScript [("f", 4)]
  files := { entries := [(["work", "in.py"], .source .finishes)] }
  host := { device := { writing := fun _ _ => some { raised := noSpace, kept := 0 } } }

/-- The specialization with a given name, line and place among the callables of such a script. -/
def farItem (name : String) (line : Int) (place : Nat) : Specialization :=
  ⟨⟨name, [place]⟩, ["int32"], ⟨⟨name, [place]⟩, line, [place, 0]⟩, [place, 0, 0]⟩

/-- The output of every specialization. -/
def farOutput : StageOutput where
  text := "x\n"
  lineCount := 1

/-- The bench behind the enumeration of that script. -/
def farPrepared : Bench Script :=
  (enumerated Script.toolchain nativeArguments farBench).2

theorem enumerated_farBench : enumerated Script.toolchain nativeArguments farBench =
    (.ok (⟨"numba_explorer_input_0", "/work/in.py"⟩, [farItem "f" 4 0, farItem "g" farLine 1]),
      farPrepared) :=
  Prod.fst_eq_iff.1 (by decide +kernel)

theorem opens_farPrepared : Opens farPrepared nativeArguments.outputPath ["work", "out.txt"] :=
  ⟨by decide +kernel, by decide +kernel⟩

/-- Both specializations are extracted. -/
theorem exists_extracted_farItem : ∃ c last,
    Extraction.outcome Script.toolchain nativeArguments (farItem "f" 4 0) farPrepared.compiler =
      (.ok farOutput, c) ∧
    Extraction.outcome Script.toolchain nativeArguments (farItem "g" farLine 1) c =
      (.ok farOutput, last) := by
  refine ⟨_, _, Prod.fst_eq_iff.1 ?_, Prod.fst_eq_iff.1 ?_⟩
  · decide +kernel
  · decide +kernel

/-- A run extracts every specialization, opens the output, and fails nevertheless, with a given
content of the output. -/
def LosesBlocks (bench : Bench Script) (failure : Failure) (content : String) : Prop :=
  ∃ context found prepared written last place after,
    enumerated Script.toolchain nativeArguments bench = (.ok (context, found), prepared) ∧
    Extracted Script.toolchain nativeArguments prepared.compiler written last ∧
    found = written.map Prod.fst ∧ Opens prepared nativeArguments.outputPath place ∧
    generate Script.toolchain nativeArguments bench = (.error failure, after) ∧
    after.files.node? place = some (.text content)

/-- The header of the second specialization cannot be written. -/
theorem losesBlocks_farBench : LosesBlocks farBench .oversized "<4 1 f int32>\nx\n\n" := by
  obtain ⟨c, last, hfirst, hsecond⟩ := exists_extracted_farItem
  have htakes : farBench.host.device.TakesAll := ⟨fun _ _ => rfl, fun _ => rfl⟩
  have hshort : ∀ entry ∈ entriesOf [(farItem "f" 4 0, farOutput)], entry.HasShortNumbers :=
    List.forall_mem_singleton.2 ⟨by decide +kernel, by decide +kernel⟩
  have hlong : ¬ (entryOf (farItem "g" farLine 1) farOutput).HasShortNumbers := fun hshort =>
    absurd maxDigits_lt_length_farLine (Nat.not_lt.2 hshort.line)
  obtain ⟨after, hgenerate, hleaves⟩ := generate_of_stops enumerated_farBench opens_farPrepared
    htakes (.cons hfirst (.nil c)) hshort [] rfl (.oversized hsecond hlong)
  refine ⟨_, _, _, [(farItem "f" 4 0, farOutput), (farItem "g" farLine 1, farOutput)], last, _,
    after, enumerated_farBench, .cons hfirst (.cons hsecond (.nil last)), rfl,
    opens_farPrepared, hgenerate, ?_⟩
  rw [hleaves.content]
  decide +kernel

/-- A full device takes nothing of what was extracted. -/
theorem losesBlocks_fullBench : LosesBlocks fullBench (.foreign noSpace) "" := by
  let prepared := (enumerated Script.toolchain nativeArguments fullBench).2
  have hfound : enumerated Script.toolchain nativeArguments fullBench =
      (.ok (⟨"numba_explorer_input_0", "/work/in.py"⟩, [farItem "f" 4 0]), prepared) :=
    Prod.fst_eq_iff.1 (by decide +kernel)
  have hextracted : Extraction.outcome Script.toolchain nativeArguments (farItem "f" 4 0)
      prepared.compiler = (.ok farOutput, _) := Prod.fst_eq_iff.1 (by decide +kernel)
  exact ⟨_, _, prepared, [(farItem "f" 4 0, farOutput)], _, ["work", "out.txt"], _, hfound,
    .cons hextracted (.nil _), rfl, ⟨by decide +kernel, by decide +kernel⟩,
    Prod.fst_eq_iff.1 (by decide +kernel), by decide +kernel⟩

/-- **There are runs that extract every specialization and fail nevertheless:** a header has a
number with too many digits, although the device takes all, or the device refuses, although all
numbers are short. -/
theorem exists_unwritten_blocks :
    farBench.host.device.TakesAll ∧ LosesBlocks farBench .oversized "<4 1 f int32>\nx\n\n" ∧
      (entryOf (farItem "f" 4 0) farOutput).HasShortNumbers ∧
      LosesBlocks fullBench (.foreign noSpace) "" :=
  ⟨⟨fun _ _ => rfl, fun _ => rfl⟩, losesBlocks_farBench, ⟨by decide +kernel, by decide +kernel⟩,
    losesBlocks_fullBench⟩

end Pipeline

end JitExplorer
