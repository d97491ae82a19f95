/-
**The line of a definition.**

The source lines of a function start at its decorators.  The function is reported at the line of its
definition statement, which is the first line that begins with one; a listing without such a line is
reported at its start.  If the listing is not available, the compiler's own first line is used,
unless something unexpected was raised.

Main definitions:

* `SourceListing` — what is known of the source of a function;
* `SourceListing.definitionLine` — the line that is reported.
-/

import JitExplorer.Failure
import JitExplorer.Text.Blank
import JitExplorer.Text.Search

set_option autoImplicit false

namespace JitExplorer

/-- What is known of the source of a function. -/
inductive SourceListing where
  /-- Its lines, with the number of the first one. -/
  | available (lines : List String) (start : Int)
  /-- Asking for its lines raised something; the compiler knows its first line. -/
  | unavailable (failure : Failure) (firstLine : Int)
  deriving DecidableEq, Repr

namespace SourceListing

/-- A line begins with a definition statement. -/
def isDefinition (line : String) : Bool :=
  let s := Text.trimLeft line.toList
  Text.startsWith "def ".toList s || Text.startsWith "async def ".toList s

/-- The number of the first definition statement of lines that start at a given number. -/
def firstDefinition? (start : Int) : List String → Option Int
  | [] => none
  | line :: lines => if isDefinition line then some start else firstDefinition? (start + 1) lines

/-- The failures that say that a listing is not available. -/
def isExpected (failure : Failure) : Bool :=
  failure.isSystem || failure.kind == "TypeError"

/-- **The line that a function is reported at.** -/
def definitionLine : SourceListing → Except Failure Int
  | .available lines start => .ok ((firstDefinition? start lines).getD start)
  | .unavailable failure firstLine =>
      if isExpected failure then .ok firstLine else .error failure

end SourceListing

end JitExplorer
