/-
**The calls of a run.**

A recorder stands in front of a toolchain.  It passes every call on and notes it, with the failure
that the call was answered with, if it was one.  A run of the recorder does what a run of the
toolchain does, so what the recorder has noted are the calls of that run.

Main definitions:

* `Toolchain.Call`, `Toolchain.Event` — a call, and a call that was made;
* `Toolchain.recorded` — the recorder in front of a toolchain;
* `Pipeline.calls` — the calls of a run, in order.

Main results:

* `Toolchain.agree_recorded` — the recorder answers like the toolchain;
* `Pipeline.agree_generate_recorded` — **a run of the recorder does what a run of the toolchain
  does.**
-/

import JitExplorer.Proofs.Enumeration.Inventory
import JitExplorer.Proofs.Pipeline.Agreement

set_option autoImplicit false

namespace JitExplorer

variable {σ α : Type}

namespace Toolchain

/-! ### The recorder -/

/-- What can be asked of a toolchain. -/
inductive Call where
  | configure (options : StageOptions)
  | supportsCodegenParams
  | bindings (context : Context)
  | isCallable (object : Ref)
  | displayName (name : String) (object : Ref)
  | methods (callable : Callable) (context : Context)
  | specializations (method : Method)
  | argTypes (object : Ref)
  | emit (stage : Stage) (s : Specialization) (options : StageOptions)
  deriving DecidableEq, Repr

/-- A call that was made, with the failure that it was answered with. -/
structure Event where
  call : Call
  failure? : Option Failure
  deriving DecidableEq, Repr

/-- An answer, with a note of the call. -/
def noted (call : Call) (events : List Event) (answer : Answer σ α) :
    Answer (σ × List Event) α where
  state := (answer.state, events ++ [{ call, failure? := failureOf? answer.result }])
  log := answer.log
  result := answer.result

/-- **The recorder in front of a toolchain:** it keeps the calls that were made beside the state. -/
def recorded (toolchain : Toolchain σ) : Toolchain (σ × List Event) where
  configure options s := noted (.configure options) s.2 (toolchain.configure options s.1)
  executed context s := (toolchain.executed context s.1, s.2)
  supportsCodegenParams s := noted .supportsCodegenParams s.2 (toolchain.supportsCodegenParams s.1)
  bindings context s := noted (.bindings context) s.2 (toolchain.bindings context s.1)
  isCallable object s := noted (.isCallable object) s.2 (toolchain.isCallable object s.1)
  displayName name object s :=
    noted (.displayName name object) s.2 (toolchain.displayName name object s.1)
  methods callable context s :=
    noted (.methods callable context) s.2 (toolchain.methods callable context s.1)
  specializations method s :=
    noted (.specializations method) s.2 (toolchain.specializations method s.1)
  argTypes object s := noted (.argTypes object) s.2 (toolchain.argTypes object s.1)
  emit stage s options c :=
    let emission := toolchain.emit stage s options c.1
    { state := (emission.state,
        c.2 ++ [{ call := .emit stage s options, failure? := failureOf? emission.result }])
      log := emission.log
      written := emission.written
      result := emission.result }

/-- The recorder answers like the toolchain. -/
theorem agree_recorded (toolchain : Toolchain σ) :
    toolchain.recorded.Agree (fun c s => c.1 = s) toolchain := by
  have hnoted : ∀ {α : Type} (question : σ → Answer σ α) (call : Call) ⦃c : σ × List Event⦄ ⦃s⦄,
      c.1 = s → (noted call c.2 (question c.1)).Agree (fun c s => c.1 = s) (question s) := by
    rintro α question call c _ rfl
    exact ⟨rfl, rfl, rfl⟩
  exact
    { configure := fun _ => hnoted _ _
      executed := fun context _ _ h => congrArg (toolchain.executed context) h
      supportsCodegenParams := hnoted _ _
      bindings := fun _ => hnoted _ _
      isCallable := fun _ => hnoted _ _
      displayName := fun _ _ => hnoted _ _
      methods := fun _ _ => hnoted _ _
      specializations := fun _ => hnoted _ _
      argTypes := fun _ => hnoted _ _
      emit := by
        rintro stage s options c _ rfl
        exact ⟨rfl, rfl, rfl, rfl⟩ }

end Toolchain

/-! ### The calls of a run -/

/-- A bench with a recorder that has not noted anything yet. -/
def Bench.recording (bench : Bench σ) : Bench (σ × List Toolchain.Event) :=
  { bench with compiler := (bench.compiler, []) }

theorem Bench.agree_recording (bench : Bench σ) :
    bench.recording.Agree (fun c s => c.1 = s) bench :=
  ⟨rfl, rfl, rfl, rfl, rfl⟩

namespace Pipeline

/-- **The calls of a run,** in order. -/
def calls (toolchain : Toolchain σ) (arguments : Arguments) (bench : Bench σ) :
    List Toolchain.Event :=
  (generate toolchain.recorded arguments bench.recording).2.compiler.2

/-- **A run of the recorder does what a run of the toolchain does.** -/
theorem agree_generate_recorded (toolchain : Toolchain σ) (arguments : Arguments) :
    Job.Agree (fun c s => c.1 = s) (generate toolchain.recorded arguments)
      (generate toolchain arguments) :=
  agree_generate toolchain.agree_recorded arguments arguments.verbose

end Pipeline

end JitExplorer
