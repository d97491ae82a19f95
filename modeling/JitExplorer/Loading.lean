/-
**Loading a source.**

A source is executed in a module of its own.  Modules without a given name are numbered.  The path
is resolved first, and there has to be a file.  The source is compiled before it is executed, and
the host may keep its bytecode then.  Whatever either of the two raises is reported as a load error,
except an interruption.

Main definitions:

* `Loading.moduleName` — the name of a numbered module;
* `Loading.loadFailure` — a failure of the execution as the explorer reports it;
* `Loading.execute`, `Loading.loadAt` — a source executed, and looked up before that;
* `Loading.load` — the module that a source was executed in.
-/

import JitExplorer.Job

set_option autoImplicit false

namespace JitExplorer.Loading

variable {σ : Type}

/-- The name of the module with a given number. -/
def moduleName (number : Nat) : String :=
  "numba_explorer_input_" ++ Text.natText number

/-- The name that a module is given: the wanted one, or a numbered one. -/
def chooseName : Option String → Job σ String
  | some name => pure name
  | none => do
      let number ← Act.look Bench.loads
      Act.modify fun bench => { bench with loads := number + 1 }
      pure (moduleName number)

/-- What a source raised as the explorer reports it: also a request to end the program is a load
error, but nothing else that no handler may swallow. -/
def loadFailure (path : String) (failure : Failure) : Failure :=
  match failure.toRaised.nature with
  | .interrupt => failure
  | .endless => failure
  | .syntaxFault (some line) _ =>
      -- The error speaks of the line, whose number has to be written for that.
      match numeral line with
      | .ok _ => .explorer (.load path (.raised failure.toRaised))
      | .error refusal => refusal
  | _ => .explorer (.load path (.raised failure.toRaised))

/-- The place of a path.  A path with the null character cannot be resolved. -/
def resolve (files : FileTree) (path : String) : Except Failure Place :=
  if FileTree.holdsNull path then .error (FileTree.Refusal.nullCharacter.toFailure path)
  else .ok (FilePath.resolve files.workingDirectory path)

/-- The host keeps the bytecode of the source at a place, or does not. -/
def keepBytecode (place : Place) : Job σ Unit :=
  Job.onFiles fun host files => (.ok (), host.compiled files place)

/-- The source at a place is executed in a module with a name, in the way that is known of it. -/
def execute (toolchain : Toolchain σ) (place : Place) (name : String) : Execution → Job σ Context
  | .refused failure => Act.fail (loadFailure place.text failure)
  | .raises failure => do
      keepBytecode place
      Act.fail (loadFailure place.text failure)
  | .finishes => do
      keepBytecode place
      let context : Context := { name, path := place.text }
      Act.modify fun bench =>
        { bench with compiler := toolchain.executed context bench.compiler }
      pure context

/-- A source is loaded from a place into a module with a name. -/
def loadAt (toolchain : Toolchain σ) (host : Host) (files : FileTree) (place : Place)
    (name : String) : Job σ Context :=
  match files.isFile place.text with
  | .error refusal => Act.fail (refusal.toFailure place.text)
  | .ok false => Act.fail (.explorer (.load place.text .missing))
  | .ok true => do
      Job.log .debug ("Loading " ++ place.text ++ " as module " ++ name)
      execute toolchain place name (host.executionAt files place)

/-- **A source is executed in a module of its own.** -/
def load (toolchain : Toolchain σ) (path : String) (name : Option String) : Job σ Context := do
  let files ← Act.look Bench.files
  let host ← Act.look Bench.host
  let place ← Act.ofExcept (resolve files path)
  let name ← chooseName name
  loadAt toolchain host files place name

end JitExplorer.Loading
