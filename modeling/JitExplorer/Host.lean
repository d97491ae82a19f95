/-
**The host of a run.**

The host executes sources and holds the device that the output is written to.  A text is a source
like any other, and the host knows what executing it amounts to.  Once a source is compiled, the
host may keep its bytecode in a file, before anything of the source is executed.

A device takes what is written to a file, or refuses it.  A refusal may come as late as the closing
of the file, since a device may hold back what it was given.  Behind a refusal the file holds a
first part of all that was written.

Main definitions:

* `Device`, `Device.Refusal`, `Device.TakesAll` — devices, and those that refuse nothing;
* `Host`, `Host.executionAt`, `Host.compiled` — hosts, the execution of a file, and the files once
  that one is compiled;
* `Host.beside` — the usual place of bytecode.

Main results:

* `Host.file?_compiled_of_ne` — keeping bytecode leaves all other files as they are.
-/

import JitExplorer.FileTree

set_option autoImplicit false

namespace JitExplorer

/-! ### Devices -/

/-- A refusal by a device: what is raised, and how many characters the file then holds. -/
structure Device.Refusal where
  raised : Raised
  kept : Nat
  deriving DecidableEq, Repr

/-- What is left of a text behind a refusal. -/
def Device.Refusal.cut (refusal : Device.Refusal) (text : String) : String :=
  String.ofList (text.toList.take refusal.kept)

/-- **A device:** what it refuses. -/
structure Device where
  /-- A path is not opened for writing, for a reason that the files do not show. -/
  opening : String → Option Raised := fun _ => none
  /-- A text is not written behind the one that the file holds. -/
  writing : String → String → Option Device.Refusal := fun _ _ => none
  /-- A file with a text is not closed. -/
  closing : String → Option Device.Refusal := fun _ => none

/-- A device takes whatever is written to a file that it has opened. -/
structure Device.TakesAll (device : Device) : Prop where
  writing : ∀ before text, device.writing before text = none
  closing : ∀ content, device.closing content = none

/-! ### Hosts -/

/-- **A host.** -/
structure Host where
  /-- What executing a text amounts to. -/
  execute : String → Execution := fun _ => .finishes
  /-- The place at which the bytecode of the source at a place is kept, if it is. -/
  bytecodePlace : FileTree → Place → Option Place := fun _ _ => none
  device : Device := {}

namespace Host

/-- The execution of the file at a place.  Bytecode is no source. -/
def executionAt (host : Host) (files : FileTree) (place : Place) : Execution :=
  match files.node? place with
  | some (.source execution) => execution
  | some (.text content) => host.execute content
  | some .bytecode =>
      .refused (.ordinary "ValueError" "source code string cannot contain null bytes")
  | _ => .finishes

/-- The files once the source at a place is compiled. -/
def compiled (host : Host) (files : FileTree) (place : Place) : FileTree :=
  match host.bytecodePlace files place with
  | some kept => files.put kept .bytecode
  | none => files

/-- Keeping bytecode leaves all other files as they are. -/
theorem file?_compiled_of_ne (host : Host) (files : FileTree) {place other : Place}
    (h : host.bytecodePlace files place ≠ some other) :
    (host.compiled files place).file? other = files.file? other := by
  unfold compiled
  split
  · rename_i kept hkept
    exact files.file?_put_of_ne _ fun heq => h (heq ▸ hkept)
  · rfl

theorem compiled_of_none (host : Host) {files : FileTree} {place : Place}
    (h : host.bytecodePlace files place = none) : host.compiled files place = files := by
  rw [compiled, h]

/-! ### The usual place of bytecode -/

/-- The name of the directory for bytecode. -/
def bytecodeDirectory : String := "__pycache__"

/-- The name of a file of bytecode: the part of the source's name in front of its last dot, or else
what is behind it, and what tells the interpreter. -/
def bytecodeName (name : String) : String :=
  match (Text.parts '.' name.toList).reverse with
  | last :: front :: others =>
      let base := Text.joinWith ['.'] (front :: others).reverse
      String.ofList (if base = [] then last else base) ++ ".cpython-311.pyc"
  | _ => name ++ "cpython-311.pyc"

/-- Bytecode is usually kept in a directory beside the source, unless something else is there. -/
def beside (files : FileTree) (place : Place) : Option Place :=
  match place.getLast? with
  | none => none
  | some name =>
      let directory := place.dropLast ++ [bytecodeDirectory]
      let kept := directory ++ [bytecodeName name]
      if FileTree.isFileNode (files.node? directory) || files.node? kept == some .directory then
        none
      else some kept

end Host

end JitExplorer
