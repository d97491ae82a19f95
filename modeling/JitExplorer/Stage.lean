/-
**Stages of a compilation and their texts.**

The explorer shows one stage of one specialization at a time: the lowered form, the typed form, the
listing with type warnings, the function's LLVM text, the LLVM text of the whole module, or the
native assembly.  Two settings go with a stage: whether the compiler optimizes, and how much debug
information the text carries.

Main definitions:

* `Stage`, `Stage.text`, `Stage.ofText?` — the stages and their spelling;
* `DebugInfo`, `StageOptions` — the settings of a run;
* `StageOutput`, `StageOutput.ofText` — a stage text together with its number of lines.

Main results:

* `Stage.ofText?_eq_some_iff` — a text names a stage exactly when it is that stage's spelling;
* `StageOutput.ofText_text` — the stage text is the given one, ended by a newline.
-/

import JitExplorer.Text.Lines

set_option autoImplicit false

namespace JitExplorer

/-! ### Stages -/

/-- The forms in which a specialization can be shown. -/
inductive Stage where
  | lowered
  | typed
  | warntype
  | llvm
  | llvmModule
  | native
  deriving DecidableEq, Repr

namespace Stage

/-- Every stage, in the order in which they are offered. -/
def all : List Stage :=
  [.lowered, .typed, .warntype, .llvm, .llvmModule, .native]

/-- The spelling of a stage on the command line. -/
def text : Stage → String
  | .lowered => "lowered"
  | .typed => "typed"
  | .warntype => "warntype"
  | .llvm => "llvm"
  | .llvmModule => "llvm-module"
  | .native => "native"

/-- The stage that a text spells. -/
def ofText? (s : String) : Option Stage :=
  all.find? fun stage => stage.text == s

theorem ofText?_text (stage : Stage) : ofText? stage.text = some stage := by
  cases stage <;> decide

theorem ofText?_eq_some_iff (s : String) (stage : Stage) :
    ofText? s = some stage ↔ s = stage.text := by
  constructor
  · intro h
    have := List.find?_some h
    simpa using Eq.symm (by simpa using this)
  · rintro rfl
    exact ofText?_text stage

end Stage

/-! ### Settings -/

/-- How much debug information a stage text carries. -/
inductive DebugInfo where
  | default
  | source
  | none
  deriving DecidableEq, Repr

/-- The spelling of a debug information level. -/
def DebugInfo.text : DebugInfo → String
  | .default => "default"
  | .source => "source"
  | .none => "none"

/-- The settings that go with a stage. -/
structure StageOptions where
  optimize : Bool := true
  debugInfo : DebugInfo := .default
  deriving DecidableEq, Repr

/-! ### Stage texts -/

/-- A stage text and the number of lines that is announced for it. -/
structure StageOutput where
  text : String
  lineCount : Int
  deriving DecidableEq, Repr

/-- A text ended by a newline, which is added if it is missing. -/
def endWithNewline (s : List Char) : List Char :=
  if s.getLast? = some '\n' then s else s ++ ['\n']

/-- The stage text of what a compiler wrote: it ends with a newline, and its lines are counted. -/
def StageOutput.ofText (s : String) : StageOutput :=
  let t := endWithNewline s.toList
  { text := String.ofList t, lineCount := t.count '\n' }

theorem StageOutput.ofText_text (s : String) :
    (StageOutput.ofText s).text = String.ofList (endWithNewline s.toList) := rfl

theorem StageOutput.ofText_lineCount (s : String) :
    (StageOutput.ofText s).lineCount = ((endWithNewline s.toList).count '\n' : Nat) := rfl

end JitExplorer
