/-
**The typed listing.**

The listing of an overload starts with its signature.  Then the blocks follow in the order of their
labels.  An assignment to a variable of known type is followed by the type, and an instruction with
a known source line by that line, unless the listing is to be free of debug information.  Labels are
places in bytecode and lines are lines of a source, so that their numerals are never too long.

Main definitions:

* `Dispatcher.instructionLine` — the line of an instruction;
* `Dispatcher.sortedBlocks` — blocks in the order of their labels;
* `Dispatcher.typedLines`, `Dispatcher.typedText` — the listing.

Main results:

* `Dispatcher.sortedBlocks_perm` — sorting loses and repeats nothing.
-/

import JitExplorer.Dispatcher.World

set_option autoImplicit false

namespace JitExplorer.Dispatcher

/-- The type of the variable that an instruction assigns, if both are known. -/
def typeSuffix (types : List (String × String)) (instruction : Instruction) : String :=
  match instruction.target.bind fun target => types.lookup target with
  | some type => " :: " ++ type
  | none => ""

/-- The source line of an instruction, if it is known and wanted. -/
def lineSuffix (withLines : Bool) (instruction : Instruction) : String :=
  match instruction.line with
  | some line => if withLines then "  # line " ++ Text.intText line else ""
  | none => ""

/-- The line of an instruction. -/
def instructionLine (types : List (String × String)) (withLines : Bool)
    (instruction : Instruction) : String :=
  "    " ++ instruction.text ++ typeSuffix types instruction ++ lineSuffix withLines instruction

/-- The line of a label. -/
def labelLine (name : Int) : String :=
  "label " ++ Text.intText name ++ ":"

/-- The lines of a block. -/
def blockLines (types : List (String × String)) (withLines : Bool)
    (block : Int × List Instruction) : List String :=
  labelLine block.1 :: block.2.map (instructionLine types withLines)

/-- Blocks in the order of their labels. -/
def sortedBlocks (blocks : Blocks) : Blocks :=
  blocks.mergeSort fun a b => a.1 ≤ b.1

theorem sortedBlocks_perm (blocks : Blocks) : (sortedBlocks blocks).Perm blocks :=
  List.mergeSort_perm blocks _

/-- The lines of a listing. -/
def typedLines (heading : String) (types : List (String × String)) (blocks : Blocks)
    (withLines : Bool) : List String :=
  heading :: (sortedBlocks blocks).flatMap (blockLines types withLines)

/-- **The typed listing** of an overload with the given heading. -/
def typedText (heading : String) (types : List (String × String)) (blocks : Blocks)
    (withLines : Bool) : String :=
  Text.writeLines (typedLines heading types blocks withLines)

end JitExplorer.Dispatcher
