/-
**Inlay hints.**

The editor shows one hint per source line that owns a block.  The hint stands at the end of its
line; its label lists the blocks of the line in their order.  Only the lines of the requested range
are shown, in ascending order.

Line numbers of blocks count from one, those of hints from zero.  A hint is refused if it counts
more lines than can be written as a numeral, or if the editor's library takes its place for none
that an editor can have.  That judgement is not made here: it is a parameter of what makes hints.

Main definitions:

* `Hint`, `Hint.phrase` — a hint and what it says about one block;
* `Hint.Places`, `Hint.Places.TakesProtocol` — which places the editor's library takes, and that it
  takes those of the protocol; `Hint.protocolPlaces` is one that does;
* `Hint.collect`, `Hint.sortLines` — the visible blocks by their lines, and lines in order;
* `Hint.build` — the hints of a range, or the first failure.

Main results:

* `Hint.phrase_of_hasShortCount`, `Hint.phrase_of_not_hasShortCount` — what is said of a block, and
  of one with too many lines;
* `Hint.insertLine_perm` — a line is added and no other one is lost.
-/

import JitExplorer.ArgumentList
import JitExplorer.Index

set_option autoImplicit false

namespace JitExplorer

/-- A hint: its line, the place in the line, and what it says. -/
structure Hint where
  line : Int
  character : Nat
  label : String
  deriving DecidableEq, Repr

namespace Hint

/-- Which places, given by their line and their character, the editor's library takes; the others it
refuses. -/
abbrev Places : Type :=
  Int → Nat → Except Failure Unit

/-- The largest number that the protocol allows for a line, and for a place in a line. -/
def maxPlace : Nat := 2147483647

/-- The places that the protocol allows are taken. -/
def Places.TakesProtocol (places : Places) : Prop :=
  ∀ (line : Int) (character : Nat), 0 ≤ line → line ≤ maxPlace → character ≤ maxPlace →
    places line character = .ok ()

/-- What a hint says about one block, unless its lines are too many for a numeral. -/
def phrase (block : Block) (stage : String) : Except Failure String := do
  let lineCount ← numeral block.lineCount
  return block.name ++ "(" ++ block.args ++ "): " ++ lineCount ++ " lines " ++ stage

/-- A library that takes the places that the protocol allows and no other ones. -/
def protocolPlaces : Places := fun line character =>
  if line < 0 || maxPlace < line then
    .error (.ordinary "ValueError"
      ("Position.line should be in range [0:" ++ Text.natText maxPlace ++ "], but was " ++
        Text.intText line ++ "."))
  else if maxPlace < character then
    .error (.ordinary "ValueError"
      ("Position.character should be in range [0:" ++ Text.natText maxPlace ++ "], but was " ++
        Text.natText character ++ "."))
  else .ok ()

theorem takesProtocol_protocolPlaces : protocolPlaces.TakesProtocol := by
  intro line character hnonneg hline hcharacter
  have hinside : (line < 0 || (maxPlace : Int) < line) = false := by
    simp only [Bool.or_eq_false_iff, decide_eq_false_iff_not]
    omega
  simp only [protocolPlaces, hinside, if_neg (Nat.not_lt.2 hcharacter), Bool.false_eq_true,
    if_false]

/-- The lines of a block are not too many for a numeral. -/
def HasShortCount (block : Block) : Prop :=
  (Text.natDigits block.lineCount.natAbs).length ≤ Text.maxDigits

instance (block : Block) : Decidable (HasShortCount block) :=
  inferInstanceAs (Decidable (_ ≤ _))

/-- What a hint says about a block whose lines are not too many. -/
def wording (stage : String) (block : Block) : String :=
  block.name ++ "(" ++ block.args ++ "): " ++ Text.intText block.lineCount ++ " lines " ++ stage

theorem phrase_of_hasShortCount {block : Block} (h : HasShortCount block) (stage : String) :
    phrase block stage = .ok (wording stage block) := by
  simp only [phrase, numeral, if_neg (Nat.not_lt.2 h)]
  rfl

theorem phrase_of_not_hasShortCount {block : Block} (h : ¬ HasShortCount block) (stage : String) :
    phrase block stage = .error .oversized := by
  simp only [phrase, numeral, if_pos (Nat.not_le.1 h)]
  rfl

/-- What a hint says about some blocks. -/
def phrases (stage : String) : List Block → Except Failure (List String)
  | [] => .ok []
  | block :: blocks => do
      let first ← phrase block stage
      let others ← phrases stage blocks
      return first :: others

/-- The line of a block, counted from zero. -/
def lineOf (block : Block) : Int :=
  block.line - 1

/-- The line of a block lies in the requested range. -/
def isVisible (first last : Int) (block : Block) : Bool :=
  first ≤ lineOf block && lineOf block ≤ last

/-! ### Grouping -/

/-- Some lines, each with its blocks. -/
abbrev Groups : Type :=
  List (Int × List Block)

/-- A block is added behind the others of its line; a line that has none yet comes last. -/
def addBlock (line : Int) (block : Block) : Groups → Groups
  | [] => [(line, [block])]
  | (other, owned) :: groups =>
      if other = line then (other, owned ++ [block]) :: groups
      else (other, owned) :: addBlock line block groups

/-- The visible blocks by their lines. -/
def collect (first last : Int) (blocks : List Block) : Groups :=
  blocks.foldl
    (fun groups block =>
      if isVisible first last block then addBlock (lineOf block) block groups else groups) []

/-- The blocks of a line. -/
def ownedBy (groups : Groups) (line : Int) : List Block :=
  (groups.lookup line).getD []

/-- A line added to ascending lines. -/
def insertLine (line : Int) : List Int → List Int
  | [] => [line]
  | other :: lines =>
      if line ≤ other then line :: other :: lines else other :: insertLine line lines

/-- Lines in ascending order. -/
def sortLines (lines : List Int) : List Int :=
  lines.foldr insertLine []

theorem insertLine_perm (line : Int) (lines : List Int) :
    (insertLine line lines).Perm (line :: lines) := by
  induction lines with
  | nil => exact .refl _
  | cons other lines ih =>
      unfold insertLine
      split
      · exact .refl _
      · exact (ih.cons other).trans (.swap line other lines)

/-! ### Hints -/

/-- The place behind the last character of a line; a line behind the source is empty. -/
def endOfLine (source : List String) (line : Int) : Except Failure Nat :=
  if line < source.length then
    match Index.itemAt source line with
    | .ok text => .ok text.length
    | .error fault => .error fault.toFailure
  else .ok 0

section Build

variable (places : Places) (source : List String) (stage : String)

/-- The hint of a line. -/
def ofLine (groups : Groups) (line : Int) : Except Failure Hint := do
  let character ← endOfLine source line
  let phrases ← phrases stage (ownedBy groups line)
  places line character
  return { line, character, label := Text.join " | " phrases }

/-- The hints of some lines, or the first failure. -/
def ofLines (groups : Groups) : List Int → Except Failure (List Hint)
  | [] => .ok []
  | line :: lines => do
      let hint ← ofLine places source stage groups line
      let hints ← ofLines groups lines
      return hint :: hints

/-- **The hints of a range of lines,** or the first failure. -/
def build (blocks : List Block) (first last : Int) : Except Failure (List Hint) :=
  let groups := collect first last blocks
  ofLines places source stage groups (sortLines (groups.map Prod.fst))

end Build

end Hint

end JitExplorer
