/-
**Files.**

A file tree holds directories, texts, sources whose execution is known in advance, and files of
bytecode.  The root and the working directory always exist, and so do the directories above anything
that exists.  There are no links, and nothing that stands in the tree is closed to anybody: what a
device refuses for other reasons is not a matter of the tree.

A file is found by its path as it is given.  The path is walked segment by segment, and every
segment but the last has to be a directory, also in front of a double dot.  Whatever is in the way
is a refusal, of which the first one counts.

Main definitions:

* `FileTree`, `FileTree.node?` — the tree and what stands at a place;
* `FileTree.file?` — the file at a place;
* `FileTree.target` — the place that a path opens for writing, or the refusal;
* `FileTree.put`, `FileTree.write` — the tree after a file was put or written;
* `FileTree.find` — what stands at a path, or the refusal;
* `FileTree.fileAt?`, `FileTree.isFile` — the file at a path, and whether there is one.

Main results:

* `FileTree.node?_put` — what was put stands where it was put;
* `FileTree.file?_put_of_ne` — all other files stay as they were.
-/

import JitExplorer.Failure
import JitExplorer.FilePath

set_option autoImplicit false

namespace JitExplorer

/-- What running a source amounts to. -/
inductive Execution where
  | finishes
  | raises (failure : Failure)
  /-- The source cannot be read or is no program, so that nothing of it is executed. -/
  | refused (failure : Failure)
  deriving DecidableEq, Repr

/-- What ends an execution early. -/
def Execution.failure? : Execution → Option Failure
  | .finishes => none
  | .raises failure => some failure
  | .refused failure => some failure

/-- What may stand at a place. -/
inductive FileNode where
  | directory
  | text (content : String)
  | source (execution : Execution)
  /-- What the interpreter keeps of a source that it has compiled. -/
  | bytecode
  deriving DecidableEq, Repr

/-- A tree of files: what is known to stand where; the first entry of a place counts. -/
structure FileTree where
  workingDirectory : Place := ["work"]
  entries : List (Place × FileNode) := []
  deriving Repr

namespace FileTree

/-! ### Looking -/

/-- A place exists as a directory above another place. -/
def isAbove (place other : Place) : Bool :=
  place.isPrefixOf other

/-- A place is a directory because of what stands below it. -/
def isImplied (tree : FileTree) (place : Place) : Bool :=
  isAbove place tree.workingDirectory || tree.entries.any fun entry => isAbove place entry.1

/-- What stands at a place, if something does. -/
def node? (tree : FileTree) (place : Place) : Option FileNode :=
  match tree.entries.find? fun entry => entry.1 == place with
  | some entry => some entry.2
  | none => if tree.isImplied place then some .directory else none

/-- A node is a file. -/
def isFileNode : Option FileNode → Bool
  | some (.text _) => true
  | some (.source _) => true
  | some .bytecode => true
  | _ => false

/-- The file at a place, if there is one. -/
def file? (tree : FileTree) (place : Place) : Option FileNode :=
  (tree.node? place).filter fun node => isFileNode (some node)

/-- The text of the file at a place; empty if there is no such file. -/
def contentAt (tree : FileTree) (place : Place) : String :=
  match tree.node? place with
  | some (.text content) => content
  | _ => ""

/-! ### Writing -/

/-- The tree after something was put at a place. -/
def put (tree : FileTree) (place : Place) (node : FileNode) : FileTree :=
  { tree with entries := (place, node) :: tree.entries.filter fun entry => entry.1 != place }

/-- The tree after a text was written to a place. -/
def write (tree : FileTree) (place : Place) (content : String) : FileTree :=
  tree.put place (.text content)

/-- What was put stands where it was put. -/
theorem node?_put (tree : FileTree) (place : Place) (node : FileNode) :
    (tree.put place node).node? place = some node := by
  simp [put, node?]

@[simp] theorem contentAt_write (tree : FileTree) (place : Place) (content : String) :
    (tree.write place content).contentAt place = content := by
  simp [contentAt, write, node?_put]

theorem find?_filter_ne (entries : List (Place × FileNode)) (place other : Place)
    (h : other ≠ place) :
    (entries.filter fun entry => entry.1 != place).find? (fun entry => entry.1 == other) =
      entries.find? fun entry => entry.1 == other := by
  induction entries with
  | nil => rfl
  | cons entry entries ih =>
      by_cases hp : entry.1 = place
      · have : entry.1 ≠ other := fun ho => h (ho.symm.trans hp)
        simp [hp, ih, Ne.symm h]
      · by_cases ho : entry.1 = other
        · simp [ho, h]
        · simp [hp, ho, ih]

/-- **All other files stay as they were.**  What is put somewhere may make directories above it. -/
theorem file?_put_of_ne (tree : FileTree) {place other : Place} (node : FileNode)
    (h : other ≠ place) : (tree.put place node).file? other = tree.file? other := by
  unfold file? node?
  simp only [put, List.find?_cons]
  rw [show ((place == other) = false) by simpa using Ne.symm h]
  simp only [find?_filter_ne tree.entries place other h]
  cases tree.entries.find? fun entry => entry.1 == other with
  | some entry => rfl
  | none =>
      -- A directory is no file, whether it is implied or not.
      have hnone (c : Bool) : (if c then some FileNode.directory else none).filter
          (fun node => isFileNode (some node)) = none := by
        cases c <;> rfl
      exact (hnone _).trans (hnone _).symm

/-! ### Refusals -/

/-- Why a path cannot be opened. -/
inductive Refusal where
  /-- Nothing stands there. -/
  | missing
  /-- A file stands where a directory has to be. -/
  | notDirectory
  /-- A directory stands where a file has to be. -/
  | isDirectory
  /-- A name or the whole path is too long. -/
  | tooLong
  /-- The path holds the null character. -/
  | nullCharacter
  deriving DecidableEq, Repr

/-- The wording of a refusal by the operating system: its number, its wording, and the path. -/
def refusalText (number : Nat) (wording path : String) : String :=
  "[Errno " ++ Text.natText number ++ "] " ++ wording ++ ": " ++ Text.quoted path

/-- A refusal as a failure, for the path that is shown. -/
def Refusal.toFailure (path : String) : Refusal → Failure
  | .missing =>
      .foreign ⟨"FileNotFoundError", refusalText 2 "No such file or directory" path, .system⟩
  | .notDirectory => .foreign ⟨"NotADirectoryError", refusalText 20 "Not a directory" path, .system⟩
  | .isDirectory => .foreign ⟨"IsADirectoryError", refusalText 21 "Is a directory" path, .system⟩
  | .tooLong => .foreign ⟨"OSError", refusalText 36 "File name too long" path, .system⟩
  | .nullCharacter => .ordinary "ValueError" "embedded null byte"

/-! ### Walking -/

/-- The number of bytes that a name may have. -/
def maxNameBytes : Nat := 255

/-- The number of bytes that a path may have. -/
def maxPathBytes : Nat := 4095

/-- A name is too long. -/
def isLongName (name : String) : Bool :=
  maxNameBytes < FilePath.byteCount name

/-- The directory that a segment leads to from a directory, or the refusal. -/
def enter (tree : FileTree) (place : Place) (name : String) : Except Refusal Place :=
  if name = FilePath.dot || name = FilePath.dots then .ok (FilePath.step place name)
  else if isLongName name then .error .tooLong
  else
    match tree.node? (place ++ [name]) with
    | some .directory => .ok (place ++ [name])
    | some _ => .error .notDirectory
    | none => .error .missing

/-- The directory that some segments lead to from a directory, or the first refusal. -/
def walk (tree : FileTree) (place : Place) : List String → Except Refusal Place
  | [] => .ok place
  | name :: names =>
      match tree.enter place name with
      | .ok next => tree.walk next names
      | .error refusal => .error refusal

/-- A path holds the null character. -/
def holdsNull (path : String) : Bool :=
  path.toList.contains '\x00'

/-- The directory in which the last segment of a path stands, and that segment; the refusal of a
path that has no last segment is the given one. -/
def locate (tree : FileTree) (path : String) (unnamed : Refusal) :
    Except Refusal (Place × String) :=
  if path.isEmpty then .error .missing
  else if holdsNull path then .error .nullCharacter
  else if maxPathBytes < FilePath.byteCount path then .error .tooLong
  else
    let names := FilePath.names path
    match names.getLast? with
    | none => .error unnamed
    | some last =>
        match tree.walk (FilePath.start tree.workingDirectory path) names.dropLast with
        | .error refusal => .error refusal
        | .ok place =>
            if last = FilePath.dot || last = FilePath.dots then .error unnamed
            else .ok (place, last)

/-- **The place that a path opens for writing,** or the refusal. -/
def target (tree : FileTree) (path : String) : Except Refusal Place :=
  match tree.locate path .isDirectory with
  | .error refusal => .error refusal
  | .ok (place, last) =>
      if FilePath.endsWithSlash path then .error .isDirectory
      else if isLongName last then .error .tooLong
      else
        match tree.node? (place ++ [last]) with
        | some .directory => .error .isDirectory
        | _ => .ok (place ++ [last])

/-- **What stands at a path,** or the refusal. -/
def find (tree : FileTree) (path : String) : Except Refusal FileNode :=
  match tree.locate path .isDirectory with
  | .error refusal => .error refusal
  | .ok (place, last) =>
      if isLongName last then .error .tooLong
      else
        match tree.node? (place ++ [last]) with
        | none => .error .missing
        | some node =>
            if FilePath.endsWithSlash path && isFileNode (some node) then .error .notDirectory
            else .ok node

/-- The file at a path. -/
def fileAt? (tree : FileTree) (path : String) : Option FileNode :=
  (tree.find path).toOption.filter fun node => isFileNode (some node)

/-- A file stands at a path.  A path that cannot even be looked at is a refusal. -/
def isFile (tree : FileTree) (path : String) : Except Refusal Bool :=
  match tree.find path with
  | .ok node => .ok (isFileNode (some node))
  | .error .tooLong => .error .tooLong
  | .error .nullCharacter => .error .nullCharacter
  | .error _ => .ok false

end FileTree

end JitExplorer
