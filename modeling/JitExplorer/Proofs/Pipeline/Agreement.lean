/-
**Runs that agree.**

Two benches agree if their compilers are in related states and everything else is the same, but for
the progress text.  Jobs agree if they lead from benches that agree to the same outcome and to
benches that agree again.  If two toolchains answer alike in related states, then the runs of them
agree, whether progress is wanted in both, in one of them, or in none.

Main definitions:

* `Bench.Agree`, `Job.Agree` — benches and jobs that agree;
* `Toolchain.Agree` — toolchains that answer alike.

Main results:

* `Job.Agree.bind` — jobs that agree one after another agree;
* `Enumeration.agree_enumerate`, `Extraction.agree_extractFormat` — the parts of runs agree;
* `Pipeline.agree_generate` — **runs agree.**
-/

import JitExplorer.Proofs.Pipeline.Frames
import Mathlib.Logic.Basic

set_option autoImplicit false

namespace JitExplorer

variable {σ τ α β : Type}

/-! ### Benches and jobs that agree -/

/-- Benches agree in everything but the progress text; the compilers are in related states. -/
structure Bench.Agree (R : σ → τ → Prop) (bench : Bench σ) (other : Bench τ) : Prop where
  compiler : R bench.compiler other.compiler
  host : bench.host = other.host
  files : bench.files = other.files
  loads : bench.loads = other.loads
  log : bench.log = other.log

/-- Jobs lead from benches that agree to the same outcome and to benches that agree. -/
def Job.Agree (R : σ → τ → Prop) (job : Job σ α) (other : Job τ α) : Prop :=
  ∀ ⦃bench : Bench σ⦄ ⦃beside : Bench τ⦄, bench.Agree R beside →
    (job bench).1 = (other beside).1 ∧ (job bench).2.Agree R (other beside).2

/-- Answers agree in the result and the log, and lead to related states. -/
structure Answer.Agree (R : σ → τ → Prop) (answer : Answer σ α) (other : Answer τ α) : Prop where
  state : R answer.state other.state
  log : answer.log = other.log
  result : answer.result = other.result

/-- Emissions agree in the text, the result and the log, and lead to related states. -/
structure Emission.Agree (R : σ → τ → Prop) (emission : Emission σ) (other : Emission τ) :
    Prop where
  state : R emission.state other.state
  log : emission.log = other.log
  written : emission.written = other.written
  result : emission.result = other.result

/-- **Toolchains answer alike** in related states. -/
structure Toolchain.Agree (R : σ → τ → Prop) (toolchain : Toolchain σ) (other : Toolchain τ) :
    Prop where
  configure : ∀ options ⦃s t⦄, R s t →
    (toolchain.configure options s).Agree R (other.configure options t)
  executed : ∀ context ⦃s t⦄, R s t → R (toolchain.executed context s) (other.executed context t)
  supportsCodegenParams : ∀ ⦃s t⦄, R s t →
    (toolchain.supportsCodegenParams s).Agree R (other.supportsCodegenParams t)
  bindings : ∀ context ⦃s t⦄, R s t →
    (toolchain.bindings context s).Agree R (other.bindings context t)
  isCallable : ∀ object ⦃s t⦄, R s t →
    (toolchain.isCallable object s).Agree R (other.isCallable object t)
  displayName : ∀ name object ⦃s t⦄, R s t →
    (toolchain.displayName name object s).Agree R (other.displayName name object t)
  methods : ∀ callable context ⦃s t⦄, R s t →
    (toolchain.methods callable context s).Agree R (other.methods callable context t)
  specializations : ∀ method ⦃s t⦄, R s t →
    (toolchain.specializations method s).Agree R (other.specializations method t)
  argTypes : ∀ object ⦃s t⦄, R s t →
    (toolchain.argTypes object s).Agree R (other.argTypes object t)
  emit : ∀ stage s options ⦃c d⦄, R c d →
    (toolchain.emit stage s options c).Agree R (other.emit stage s options d)

theorem Bench.agree_refl (bench : Bench σ) : bench.Agree Eq bench :=
  ⟨rfl, rfl, rfl, rfl, rfl⟩

/-- A toolchain answers alike in the same state. -/
theorem Toolchain.agree_refl (toolchain : Toolchain σ) : toolchain.Agree Eq toolchain := by
  have hanswer : ∀ {α : Type} (question : σ → Answer σ α) ⦃s t⦄, s = t →
      (question s).Agree Eq (question t) := by
    rintro α question s _ rfl
    exact ⟨rfl, rfl, rfl⟩
  exact
    { configure := fun _ => hanswer _
      executed := fun context _ _ h => congrArg (toolchain.executed context) h
      supportsCodegenParams := hanswer _
      bindings := fun _ => hanswer _
      isCallable := fun _ => hanswer _
      displayName := fun _ _ => hanswer _
      methods := fun _ _ => hanswer _
      specializations := fun _ => hanswer _
      argTypes := fun _ => hanswer _
      emit := by
        rintro stage s options c _ rfl
        exact ⟨rfl, rfl, rfl, rfl⟩ }

namespace Job

variable {R : σ → τ → Prop}

theorem agree_pure (a : α) : Agree R (pure a : Job σ α) (pure a) :=
  fun _ _ h => ⟨rfl, h⟩

theorem agree_ofExcept (result : Except Failure α) :
    Agree R (Act.ofExcept result : Job σ α) (Act.ofExcept result) :=
  fun _ _ h => ⟨rfl, h⟩

theorem agree_fail (failure : Failure) : Agree R (Act.fail failure : Job σ α) (Act.fail failure) :=
  fun _ _ h => ⟨rfl, h⟩

theorem agree_log (level : Log.Level) (message : String) :
    Agree R (log level message : Job σ Unit) (log level message) :=
  fun _ _ h => ⟨rfl, { h with log := congrArg (· ++ _) h.log }⟩

/-- Progress lines do not matter, and neither does whether they are wanted. -/
theorem agree_sayIf (verbose wanted : Bool) (line : String) :
    Agree R (sayIf verbose line : Job σ Unit) (sayIf wanted line) := by
  intro bench beside h
  cases verbose <;> cases wanted <;> exact ⟨rfl, ⟨h.compiler, h.host, h.files, h.loads, h.log⟩⟩

theorem agree_ask {question : σ → Answer σ α} {other : τ → Answer τ α}
    (h : ∀ ⦃s t⦄, R s t → (question s).Agree R (other t)) : Agree R (ask question) (ask other) := by
  intro bench beside hbench
  have hanswer := h hbench.compiler
  refine ⟨hanswer.result, hanswer.state, hbench.host, hbench.files, hbench.loads, ?_⟩
  exact congrArg₂ (· ++ ·) hbench.log hanswer.log

/-- Work on the files agrees, since host and files are the same. -/
theorem agree_onFiles (work : Host → FileTree → Except Failure α × FileTree) :
    Agree R (onFiles work : Job σ α) (onFiles work) := by
  intro bench beside h
  unfold onFiles
  rw [h.host, h.files]
  exact ⟨rfl, ⟨h.compiler, rfl, rfl, h.loads, h.log⟩⟩

/-- What one of two jobs that agree does, the other one does too. -/
theorem Agree.exists_of_eq {job : Job σ α} {other : Job τ α} {bench after : Bench σ}
    {beside : Bench τ} {result : Except Failure α} (h : Agree R job other)
    (hbench : bench.Agree R beside) (hjob : job bench = (result, after)) :
    ∃ later, other beside = (result, later) ∧ after.Agree R later := by
  obtain ⟨hresult, hafter⟩ := h hbench
  rw [hjob] at hresult hafter
  exact ⟨_, Prod.ext hresult.symm rfl, hafter⟩

/-- **Jobs that agree one after another agree.** -/
theorem Agree.bind {job : Job σ α} {other : Job τ α} {next : α → Job σ β} {later : α → Job τ β}
    (h : Agree R job other) (hnext : ∀ a, Agree R (next a) (later a)) :
    Agree R (job >>= next) (other >>= later) := by
  intro bench beside hbench
  obtain ⟨hresult, hafter⟩ := h hbench
  rw [Act.bind_apply, Act.bind_apply]
  rcases hjob : job bench with ⟨failure | a, after⟩
  · rcases hother : other beside with ⟨_ | _, beyond⟩
    · rw [hjob, hother] at hresult hafter
      cases hresult
      rw [Act.bind_error next hjob, Act.bind_error later hother]
      exact ⟨rfl, hafter⟩
    · rw [hjob, hother] at hresult
      cases hresult
  · rcases hother : other beside with ⟨_ | _, beyond⟩
    · rw [hjob, hother] at hresult
      cases hresult
    · rw [hjob, hother] at hresult hafter
      cases hresult
      rw [Act.bind_ok next hjob, Act.bind_ok later hother]
      exact hnext a hafter

end Job

/-! ### The parts of runs -/

section Parts

variable {R : σ → τ → Prop} {toolchain : Toolchain σ} {other : Toolchain τ}
  (h : toolchain.Agree R other)

include h

namespace Loading

theorem agree_execute (place : Place) (name : String) (execution : Execution) :
    Job.Agree R (execute toolchain place name execution) (execute other place name execution) := by
  cases execution with
  | refused failure => exact Job.agree_fail _
  | raises failure => exact (Job.agree_onFiles _).bind fun _ => Job.agree_fail _
  | finishes =>
      refine (Job.agree_onFiles _).bind fun _ => ?_
      intro bench beside hbench
      exact ⟨rfl, { hbench with compiler := h.executed _ hbench.compiler }⟩

/-- Loading a source agrees: what it depends on is the same at both benches. -/
theorem agree_load (path : String) (name : Option String) :
    Job.Agree R (load toolchain path name) (load other path name) := by
  have hfiles : Job.Agree R (Act.look Bench.files : Job σ FileTree) (Act.look Bench.files) :=
    fun _ _ hbench => ⟨congrArg Except.ok hbench.files, hbench⟩
  have hhost : Job.Agree R (Act.look Bench.host : Job σ Host) (Act.look Bench.host) :=
    fun _ _ hbench => ⟨congrArg Except.ok hbench.host, hbench⟩
  have hname : Job.Agree R (chooseName name : Job σ String) (chooseName name) := by
    cases name with
    | some name => exact Job.agree_pure name
    | none =>
        intro bench beside hbench
        exact ⟨congrArg (fun number => Except.ok (moduleName number)) hbench.loads,
          { hbench with loads := congrArg (· + 1) hbench.loads }⟩
  refine hfiles.bind fun files => hhost.bind fun host => (Job.agree_ofExcept _).bind fun place =>
    hname.bind fun name => ?_
  unfold loadAt
  cases files.isFile place.text with
  | error refusal => exact Job.agree_fail _
  | ok isFile =>
      cases isFile with
      | false => exact Job.agree_fail _
      | true => exact (Job.agree_log _ _).bind fun _ => agree_execute h place name _

end Loading

namespace Enumeration

variable (verbose wanted : Bool)

theorem agree_ofItems (callable : Callable) (method : Method) (items : List (Option Ref)) :
    Job.Agree R (ofItems toolchain verbose callable method items)
      (ofItems other wanted callable method items) := by
  induction items with
  | nil => exact Job.agree_pure _
  | cons item items ih =>
      cases item with
      | none => exact ih
      | some object =>
          exact (Job.agree_ask (h.argTypes object)).bind fun _ =>
            (Job.agree_sayIf _ _ _).bind fun _ => ih.bind fun _ => Job.agree_pure _

theorem agree_ofMethods (callable : Callable) (methods : List Method) :
    Job.Agree R (ofMethods toolchain verbose callable methods)
      (ofMethods other wanted callable methods) := by
  induction methods with
  | nil => exact Job.agree_pure _
  | cons method methods ih =>
      have hmethod : Job.Agree R (ofMethod toolchain verbose callable method)
          (ofMethod other wanted callable method) :=
        (Job.agree_ask (h.specializations method)).bind fun items =>
          agree_ofItems h verbose wanted callable method items
      exact hmethod.bind fun _ => ih.bind fun _ => Job.agree_pure _

theorem agree_ofBindings (context : Context) (seen : List Ref) (bindings : List (String × Ref)) :
    Job.Agree R (ofBindings toolchain verbose context seen bindings)
      (ofBindings other wanted context seen bindings) := by
  induction bindings generalizing seen with
  | nil => exact Job.agree_pure _
  | cons binding bindings ih =>
      obtain ⟨name, object⟩ := binding
      refine (Job.agree_ask (h.isCallable object)).bind fun callable => ?_
      split
      · have hcallable : Job.Agree R (ofCallable toolchain verbose context name object)
            (ofCallable other wanted context name object) :=
          (Job.agree_ask (h.displayName name object)).bind fun shown =>
            (Job.agree_sayIf _ _ _).bind fun _ =>
              (Job.agree_ask (h.methods _ context)).bind fun methods =>
                agree_ofMethods h verbose wanted _ methods
        exact hcallable.bind fun _ => (ih _).bind fun _ => Job.agree_pure _
      · exact ih seen

/-- Enumerating agrees, whether progress is wanted or not. -/
theorem agree_enumerate (context : Context) :
    Job.Agree R (enumerate toolchain verbose context) (enumerate other wanted context) :=
  (Job.agree_ask (h.bindings context)).bind fun bindings =>
    (agree_ofBindings h verbose wanted context [] bindings).bind fun _ =>
      (Job.agree_log _ _).bind fun _ => Job.agree_pure _

end Enumeration

namespace Extraction

theorem agree_settings (stage : Stage) (options : StageOptions) :
    Job.Agree R (settings toolchain stage options) (settings other stage options) := by
  unfold settings
  split
  · exact (Job.agree_ask h.supportsCodegenParams).bind fun _ => Job.agree_pure _
  · exact Job.agree_pure _

theorem agree_written (s : Specialization) (stage : Stage) (options : StageOptions) :
    Job.Agree R (written toolchain s stage options) (written other s stage options) := by
  intro bench beside hbench
  have hemission := h.emit stage s options hbench.compiler
  refine ⟨?_, hemission.state, hbench.host, hbench.files, hbench.loads, ?_⟩
  · simp only [written, hemission.result, hemission.written]
  · exact congrArg₂ (· ++ ·) hbench.log hemission.log

omit h in
/-- Ascribing changes a failure, and nothing else. -/
theorem ascribed_apply (s : Specialization) (stage : Stage) (job : Job σ α) (bench : Bench σ) :
    ascribed s stage job bench = ((job bench).1.mapError (ascribe s stage), (job bench).2) := by
  unfold ascribed
  rcases job bench with ⟨_ | _, after⟩
  · rfl
  · rfl

omit h in
theorem agree_ascribed {job : Job σ α} {later : Job τ α} (hjob : Job.Agree R job later)
    (s : Specialization) (stage : Stage) :
    Job.Agree R (ascribed s stage job) (ascribed s stage later) := by
  intro bench beside hbench
  obtain ⟨hresult, hafter⟩ := hjob hbench
  rw [ascribed_apply, ascribed_apply]
  exact ⟨congrArg (Except.mapError (ascribe s stage)) hresult, hafter⟩

/-- Extracting a stage agrees. -/
theorem agree_extractFormat (s : Specialization) (format : Datum) (options : StageOptions) :
    Job.Agree R (extractFormat toolchain s format options)
      (extractFormat other s format options) := by
  refine (Job.agree_ofExcept _).bind fun stage => ?_
  have htext : Job.Agree R
      (settings toolchain stage options >>= fun options => written toolchain s stage options)
      (settings other stage options >>= fun options => written other s stage options) :=
    (agree_settings h stage options).bind fun options => agree_written h s stage options
  exact (agree_ascribed htext s stage).bind fun _ => (Job.agree_log _ _).bind fun _ =>
    Job.agree_pure _

end Extraction

end Parts

/-! ### Runs -/

namespace Pipeline

section Runs

variable {R : σ → τ → Prop}

theorem agree_writeBlock (place : Place) (entry : Framing.Entry) :
    Job.Agree R (writeBlock place entry : Job σ Unit) (writeBlock place entry) :=
  (Job.agree_ofExcept _).bind fun _ => (Job.agree_onFiles _).bind fun _ =>
    (Job.agree_onFiles _).bind fun _ => (Job.agree_onFiles _).bind fun _ => Job.agree_onFiles _

/-- Closing the output agrees. -/
theorem agree_closing (place : Place) {job : Job σ Unit} {later : Job τ Unit}
    (hjob : Job.Agree R job later) : Job.Agree R (closing place job) (closing place later) := by
  intro bench beside hbench
  obtain ⟨hresult, hafter⟩ := hjob hbench
  unfold closing
  rcases hfirst : job bench with ⟨failure | done, after⟩
  · rcases hsecond : later beside with ⟨other | done, beyond⟩
    · rw [hfirst, hsecond] at hresult hafter
      cases hresult
      dsimp only
      split
      · exact ⟨rfl, hafter⟩
      · exact ((Job.agree_onFiles _).bind fun _ => Job.agree_fail failure) hafter
    · rw [hfirst, hsecond] at hresult
      cases hresult
  · rcases hsecond : later beside with ⟨other | done, beyond⟩
    · rw [hfirst, hsecond] at hresult
      cases hresult
    · rw [hfirst, hsecond] at hafter
      exact Job.agree_onFiles _ hafter

variable {toolchain : Toolchain σ} {other : Toolchain τ} (h : toolchain.Agree R other)
  (arguments : Arguments) (wanted : Bool)

include h

theorem agree_enumerated :
    Job.Agree R (enumerated toolchain arguments)
      (enumerated other { arguments with verbose := wanted }) :=
  (Job.agree_ask (h.configure _)).bind fun _ => (Loading.agree_load h _ _).bind fun context =>
    (Enumeration.agree_enumerate h _ _ context).bind fun _ => Job.agree_pure _

theorem agree_writeAll (place : Place) (found : List Specialization) :
    Job.Agree R (writeAll toolchain arguments place found)
      (writeAll other { arguments with verbose := wanted } place found) := by
  induction found with
  | nil => exact Job.agree_pure _
  | cons s found ih =>
      exact (Extraction.agree_extractFormat h s _ _).bind fun _ =>
        (agree_writeBlock _ _).bind fun _ => ih

/-- **Runs agree** if the toolchains answer alike, whether progress is wanted or not. -/
theorem agree_generate :
    Job.Agree R (generate toolchain arguments)
      (generate other { arguments with verbose := wanted }) := by
  rw [generate_eq_bind, generate_eq_bind]
  refine (agree_enumerated h arguments wanted).bind fun listed => ?_
  exact (Job.agree_onFiles _).bind fun place =>
    (agree_closing place (agree_writeAll h arguments wanted place listed.2)).bind fun _ =>
      (Job.agree_log _ _).bind fun _ => Job.agree_pure _

end Runs

end Pipeline

end JitExplorer
