/-
**File paths.**

A path is a text of segments between slashes; one that starts with a slash starts at the root, any
other one at the working directory.  A *place* is where a path leads once it is resolved: the names
from the root down.  Resolving looks at the text only: empty and single-dot segments stay where they
are, and a double dot goes up, but not above the root.

Main definitions:

* `FilePath.segments`, `FilePath.names` — what stands between the slashes;
* `Place`, `FilePath.resolve`, `Place.text` — places and their one spelling;
* `FilePath.parentText` — the directory part of a path.
-/

import JitExplorer.Text.Lines
import JitExplorer.Text.Utf8

set_option autoImplicit false

namespace JitExplorer

/-- The names that lead from the root to a file or directory. -/
abbrev Place := List String

/-- The absolute path of a place. -/
def Place.text (place : Place) : String :=
  "/" ++ Text.join "/" place

namespace FilePath

/-! ### Segments -/

/-- What stands between the slashes of a path. -/
def segments (path : List Char) : List (List Char) :=
  Text.parts '/' path

/-- The segments of a path that are not empty. -/
def names (path : String) : List String :=
  ((segments path.toList).filter fun s => !s.isEmpty).map String.ofList

/-- A path starts at the root. -/
def isAbsolute (path : String) : Bool :=
  path.toList.head? == some '/'

/-- A path ends with a slash. -/
def endsWithSlash (path : String) : Bool :=
  path.toList.getLast? == some '/'

/-- The segment for the directory itself. -/
def dot : String := "."

/-- The segment for the directory above. -/
def dots : String := ".."

/-- The number of bytes of a text. -/
def byteCount (s : String) : Nat :=
  (Text.Utf8.encode s.toList).length

/-! ### Resolving -/

/-- The place that one segment leads to. -/
def step (place : Place) (name : String) : Place :=
  if name = dot then place
  else if name = dots then place.dropLast
  else place ++ [name]

/-- Where a path starts. -/
def start (workingDirectory : Place) (path : String) : Place :=
  if isAbsolute path then [] else workingDirectory

/-- **The place of a path.** -/
def resolve (workingDirectory : Place) (path : String) : Place :=
  (names path).foldl step (start workingDirectory path)

/-! ### The directory part -/

/-- The slashes that a path starts with, as they are kept: two stay two, more become one. -/
def rootText (path : String) : String :=
  match path.toList with
  | '/' :: '/' :: '/' :: _ => "/"
  | '/' :: '/' :: _ => "//"
  | '/' :: _ => "/"
  | _ => ""

/-- The directory part of a path: doubled slashes and single dots vanish, double dots stay, and the
directory part of a lone name is the working directory. -/
def parentText (path : String) : String :=
  let parts := (names path).filter (· != dot)
  let text := rootText path ++ Text.join "/" parts.dropLast
  if text.isEmpty then dot else text

end FilePath

end JitExplorer
