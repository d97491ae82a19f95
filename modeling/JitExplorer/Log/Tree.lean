/-
**All loggers, and what is written for a record.**

A logger hands a record on to the handlers of every logger above it, and goes by the level of the
nearest one that has a level.  The logger above is looked up by name, among the loggers that were
asked for so far.  The search drops the parts of the name from the last one on.  At a part that is
empty it drops two at once, and may so pass over the package logger: `numba_explorer..x` is not
below `numba_explorer`.

A record that meets no handler at all is left to the handler of last resort, which writes the bare
message, unless there is no such handler.

Main definitions:

* `Log.namePath`, `Log.forebears`, `Log.ancestry` — a name by its parts, and the loggers above;
* `Log.Tree`, `Log.Tree.setUp`, `Log.Tree.written` — all loggers, and what is written for a record;
* `Log.Step`, `Log.after` — set-ups and records, and the loggers after them.

Main results:

* `Log.length_lt_of_mem_forebears` — a logger above has a shorter name, so that the search ends.
-/

import JitExplorer.Log

set_option autoImplicit false

namespace JitExplorer.Log

open Logger (defaultLevel passes)

/-! ### The loggers above -/

/-- A logger's name by its parts, the last one first.  The root has no parts. -/
abbrev Path := List (List Char)

/-- The path of a child of the package logger; without a child, the package's own. -/
def namePath (child : Option String) : Path :=
  (Text.parts '.' (loggerName child).toList).reverse

/-- The path of the package logger. -/
def packagePath : Path :=
  [packageName.toList]

/-- The paths under which the logger above is looked up, the nearest one first.  The search for the
next dot starts two characters before the last one, so that it misses a dot right in front of it. -/
def forebears : Path → List Path
  | [] => []
  | [_] => []
  | _ :: part :: rest =>
      (part :: rest) :: if part = [] then forebears rest else forebears (part :: rest)

theorem length_lt_of_mem_forebears {path above : Path} (h : above ∈ forebears path) :
    0 < above.length ∧ above.length < path.length := by
  fun_induction forebears path with
  | case1 => simp at h
  | case2 => simp at h
  | case3 _ part rest ih₁ ih₂ =>
      rcases List.mem_cons.1 h with rfl | h
      · simp
      · split at h
        · obtain ⟨hpos, hlt⟩ := ih₁ h
          exact ⟨hpos, by simp only [List.length_cons]; omega⟩
        · obtain ⟨hpos, hlt⟩ := ih₂ h
          exact ⟨hpos, by simp only [List.length_cons] at hlt ⊢; omega⟩

/-- **A logger and those above it,** the root last.  Above a logger is the nearest that is known. -/
def ancestry (known : List Path) (path : Path) : List Path :=
  match _h : (forebears path).find? (· ∈ known) with
  | some above => path :: ancestry known above
  | none => [path, []]
termination_by path.length
decreasing_by exact (length_lt_of_mem_forebears (List.mem_of_find?_eq_some _h)).2

/-! ### All loggers -/

/-- The loggers that were asked for, what is set of each logger, and the level from which the
handler of last resort writes, if there is such a handler. -/
structure Tree where
  known : List Path := []
  settings : Path → Logger
  lastResort : Option Level

namespace Tree

/-- The loggers before anything is set: the root alone has a level. -/
def start (lastResort : Option Level) : Tree where
  settings path := { level := if path = [] then some defaultLevel else none }
  lastResort := lastResort

/-- A logger is asked for. -/
def ask (path : Path) (tree : Tree) : Tree :=
  { tree with known := path :: tree.known }

/-- The loggers after a set-up of the package logger. -/
def setUp (verbose : Bool) (tree : Tree) : Tree :=
  { tree with
    known := packagePath :: tree.known
    settings := fun path =>
      if path = packagePath then (tree.settings path).setUp verbose else tree.settings path }

/-- The level that a logger goes by: its own, or that of the nearest logger above that has one. -/
def effectiveLevel (tree : Tree) (path : Path) : Option Level :=
  (ancestry tree.known path).findSome? fun other => (tree.settings other).level

/-- The handlers that a record on a logger reaches. -/
def reached (tree : Tree) (path : Path) : List Level :=
  (ancestry tree.known path).flatMap fun other => (tree.settings other).handlers

/-- What the handler of last resort writes for a record. -/
def writtenAsLast (tree : Tree) (entry : Entry) : String :=
  if tree.lastResort.any (passes entry) then entry.message ++ "\n" else ""

/-- **What is written for a record on a logger.**  The handler of last resort comes in where there
is no handler, not where the handlers there are ask for more severe records. -/
def written (tree : Tree) (stamp : String) (path : Path) (entry : Entry) : String :=
  if (tree.effectiveLevel path).all (passes entry) then
    match tree.reached path with
    | [] => tree.writtenAsLast entry
    | handlers => Text.join "" ((handlers.filter (passes entry)).map fun _ => entry.render stamp)
  else ""

end Tree

/-! ### Set-ups and records -/

/-- What is done with the loggers: a set-up, which may leave out how verbose it is, or a record on
the package logger or on a child. -/
inductive Step where
  | setUp (verbose : Option Bool)
  | record (child : Option String) (entry : Entry)
  deriving DecidableEq, Repr

/-- The loggers after a step. -/
def Step.run (tree : Tree) : Step → Tree
  | .setUp verbose => tree.setUp (verbose.getD false)
  | .record child _ => tree.ask (namePath child)

/-- The loggers after some steps. -/
def after (lastResort : Option Level) (steps : List Step) : Tree :=
  steps.foldl Step.run (Tree.start lastResort)

end JitExplorer.Log
