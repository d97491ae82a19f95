/-
**Assembly without debug information.**

Assembly carries debug information in sections of its own and in directives.  A line with a section
directive selects a section; while a debug section is selected, every line is dropped, and so is the
directive that selects it.  Outside, the lines with a debug directive are dropped.

Both the section directives and the debug directives are recognised by how the trimmed line begins,
and a section is a debug section if its line mentions one.

Main definitions:

* `Assembly.Selection`, `Assembly.selection` — what a line does to the section that is selected;
* `Assembly.stripLines` — the lines that are kept;
* `Assembly.strip` — the text without debug information.
-/

import JitExplorer.Text.Blank
import JitExplorer.Text.Lines
import JitExplorer.Text.Search

set_option autoImplicit false

namespace JitExplorer.Assembly

/-- The directives that only carry debug information. -/
def debugDirectives : List (List Char) :=
  [".loc".toList, ".file".toList, ".cv_loc".toList, ".cv_file".toList, ".cfi_sections".toList]

/-- The directives that select a section by their own name. -/
def plainSections : List (List Char) :=
  [".text".toList, ".data".toList, ".bss".toList]

/-- What a line does to the section that is selected. -/
inductive Selection where
  /-- It selects a debug section. -/
  | debug
  /-- It selects another section. -/
  | plain
  /-- It selects nothing. -/
  | unchanged
  deriving DecidableEq, Repr

/-- What a trimmed line does to the section that is selected. -/
def selection (trimmed : List Char) : Selection :=
  if Text.startsWith ".section".toList trimmed then
    if Text.contains ".debug_".toList trimmed then .debug else .plain
  else if plainSections.any (Text.startsWith · trimmed) then .plain
  else .unchanged

/-- A debug section is selected behind a line. -/
def inDebugAfter (inDebug : Bool) : Selection → Bool
  | .debug => true
  | .plain => false
  | .unchanged => inDebug

/-- The trimmed line has a debug directive. -/
def isDebugDirective (trimmed : List Char) : Bool :=
  debugDirectives.any (Text.startsWith · trimmed)

/-- The lines that are kept; `inDebug` says that a debug section is selected in front of them. -/
def stripLines (inDebug : Bool) : List (List Char) → List (List Char)
  | [] => []
  | l :: ls =>
      let trimmed := Text.trim l
      let inDebug := inDebugAfter inDebug (selection trimmed)
      if inDebug || isDebugDirective trimmed then stripLines inDebug ls
      else l :: stripLines inDebug ls

/-- **A text without debug information.** -/
def strip (s : List Char) : List Char :=
  Text.joinWith ['\n'] (stripLines false (Text.displayLines s)) ++ ['\n']

/-- A string without debug information. -/
def stripText (s : String) : String :=
  String.ofList (strip s.toList)

end JitExplorer.Assembly
