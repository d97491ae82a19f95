/-
**Listings without source markers.**

A listing with type warnings repeats the source between marker lines such as `# --- LINE 12 ---`.
A marker line may have blanks in front of it and behind it and nothing else.

Main definitions:

* `Marker.isMarker` — the lines that are source markers;
* `Marker.strip` — the text without them.
-/

import JitExplorer.Text.Blank
import JitExplorer.Text.Digit
import JitExplorer.Text.Lines
import JitExplorer.Text.Search

set_option autoImplicit false

namespace JitExplorer.Marker

/-- The line consists of blanks, a source marker and blanks. -/
def isMarker (l : List Char) : Bool :=
  match Text.dropPrefix? "# --- LINE ".toList (Text.trimLeft l) with
  | none => false
  | some s =>
      !(s.takeWhile Text.isDigit).isEmpty &&
        match Text.dropPrefix? " ---".toList (s.dropWhile Text.isDigit) with
        | none => false
        | some r => r.all Text.isBlank

/-- **A text without its marker lines.** -/
def strip (s : List Char) : List Char :=
  Text.joinWith ['\n'] ((Text.displayLines s).filter fun l => !isMarker l) ++ ['\n']

/-- A string without its marker lines. -/
def stripText (s : String) : String :=
  String.ofList (strip s.toList)

end JitExplorer.Marker
