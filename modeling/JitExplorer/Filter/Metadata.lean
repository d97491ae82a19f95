/-
**LLVM text without debug information.**

An LLVM text carries debug information in four places: calls of the debug intrinsics, attachments
` !dbg !7` behind an instruction, metadata named `llvm.dbg.…`, and numbered metadata nodes
`!7 = …`.  The first three are removed where they stand.  A node is kept exactly when it can still
be reached: from a line that is not a node, or from a node that is kept.  So branch weights and
other metadata that the code needs survive, and no reference is left without its node.

A number that is defined more than once stands for its last definition; if it is reached, all of its
lines are kept.

Main definitions:

* `Metadata.Line.ofText?` — the lines that are looked at, as nodes or as code;
* `Metadata.eraseAttachments` — a line without its attachments;
* `Metadata.references` — the numbers that a line refers to;
* `Metadata.unreached` — the nodes that cannot be reached from given references;
* `Metadata.strip` — the text without debug information.

Main results:

* `Metadata.unreached_nil` — without references nothing is reached.
-/

import JitExplorer.Text.Blank
import JitExplorer.Text.Digit
import JitExplorer.Text.Lines
import JitExplorer.Text.Search
import JitExplorer.Text.Word

set_option autoImplicit false

namespace JitExplorer.Metadata

/-! ### Recognising the parts of a line -/

/-- The beginning of the names of debug metadata. -/
def debugName : List Char := "llvm.dbg.".toList

/-- The characters that may start the name of named metadata. -/
def isNameStart (c : Char) : Bool :=
  c.isAlpha || c == '_' || c == '.'

/-- The characters of the name of named metadata behind its first one. -/
def isNameRest (c : Char) : Bool :=
  Text.isWord c || c == '.'

/-- The name that a line defines metadata for. -/
def definedName? : List Char → Option (List Char)
  | '!' :: c :: s =>
      if isNameStart c && Text.startsWith " = ".toList (s.dropWhile isNameRest) then
        some (c :: s.takeWhile isNameRest)
      else none
  | _ => none

/-- The number that a line defines a node for, as it is written. -/
def definedNumber? : List Char → Option (List Char)
  | '!' :: s =>
      if !(s.takeWhile Text.isDigit).isEmpty &&
          Text.startsWith " = ".toList (s.dropWhile Text.isDigit) then
        some (s.takeWhile Text.isDigit)
      else none
  | _ => none

/-- The numbers that a line refers to, as they are written. -/
def references : List Char → List (List Char)
  | [] => []
  | c :: s =>
      if c = '!' && !(s.takeWhile Text.isDigit).isEmpty then
        s.takeWhile Text.isDigit :: references s
      else references s

/-! ### Attachments -/

/-- The length of the attachment at the front of a text that starts with its space. -/
def spacedAttachmentLength (s : List Char) : Nat :=
  match Text.dropPrefix? " !dbg !".toList s with
  | none => 0
  | some r =>
      let digits := r.takeWhile Text.isDigit
      if digits.isEmpty then 0 else 7 + digits.length

/-- The length of the attachment at the front of a text, with its comma if it has one; zero if there
is none. -/
def attachmentLength : List Char → Nat
  | [] => 0
  | c :: s =>
      if c = ',' then
        match spacedAttachmentLength s with
        | 0 => 0
        | n + 1 => n + 2
      else spacedAttachmentLength (c :: s)

/-- A text without its attachments, of which the first `skip` characters are part of one. -/
def eraseAttachmentsAfter : Nat → List Char → List Char
  | _, [] => []
  | skip + 1, _ :: s => eraseAttachmentsAfter skip s
  | 0, c :: s =>
      match attachmentLength (c :: s) with
      | 0 => c :: eraseAttachmentsAfter 0 s
      | n + 1 => eraseAttachmentsAfter n s

/-- A line without its attachments. -/
def eraseAttachments (s : List Char) : List Char :=
  eraseAttachmentsAfter 0 s

/-! ### Lines -/

/-- A line that is looked at: a numbered node, or code without its attachments. -/
inductive Line where
  | node (number : List Char) (text : List Char)
  | code (text : List Char)
  deriving DecidableEq, Repr

/-- The text of a line. -/
def Line.text : Line → List Char
  | .node _ text => text
  | .code text => text

/-- A line as a node or as code; a line that only carries debug information is no line. -/
def Line.ofText? (s : List Char) : Option Line :=
  if Text.contains "@llvm.dbg.".toList s then none
  else if (definedName? s).any (Text.startsWith debugName) then none
  else
    match definedNumber? s with
    | some number => some (.node number s)
    | none => some (.code (eraseAttachments s))

/-! ### Reachable nodes -/

/-- A numbered node: its number and the numbers that it refers to. -/
structure Node where
  number : List Char
  references : List (List Char)
  deriving DecidableEq, Repr

/-- The nodes of a list of lines, one per number, with the references of its last definition. -/
def nodes : List Line → List Node
  | [] => []
  | .code _ :: lines => nodes lines
  | .node number text :: lines =>
      let rest := nodes lines
      if rest.any fun node => node.number == number then rest
      else { number, references := references text } :: rest

/-- The numbers that code refers to. -/
def codeReferences : List Line → List (List Char)
  | [] => []
  | .node _ _ :: lines => codeReferences lines
  | .code text :: lines => references text ++ codeReferences lines

/-- The nodes that cannot be reached from the given references.  A reference to a node that is left
takes that node out and adds its own references; any other reference changes nothing. -/
def unreached (left : List Node) : List (List Char) → List Node
  | [] => left
  | number :: pending =>
      match _h : left.find? fun node => node.number == number with
      | none => unreached left pending
      | some node => unreached (left.erase node) (node.references ++ pending)
termination_by pending => (left.length, pending.length)
decreasing_by
  · exact Prod.Lex.right _ (Nat.lt_succ_self _)
  · apply Prod.Lex.left
    have hmem := List.mem_of_find?_eq_some _h
    rw [List.length_erase_of_mem hmem]
    exact Nat.sub_lt (List.length_pos_of_mem hmem) Nat.one_pos

theorem unreached_nil (left : List Node) : unreached left [] = left := by
  rw [unreached]

/-- A line is kept if it is code or if its node is reached. -/
def isKept (dead : List Node) : Line → Bool
  | .node number _ => !dead.any fun node => node.number == number
  | .code _ => true

/-- The lines that are left of a list of lines. -/
def keptLines (lines : List Line) : List Line :=
  lines.filter (isKept (unreached (nodes lines) (codeReferences lines)))

/-- **A text without debug information.** -/
def strip (s : List Char) : List Char :=
  Text.joinWith ['\n'] ((keptLines ((Text.displayLines s).filterMap Line.ofText?)).map Line.text) ++
    ['\n']

/-- A string without debug information. -/
def stripText (s : String) : String :=
  String.ofList (strip s.toList)

end JitExplorer.Metadata
