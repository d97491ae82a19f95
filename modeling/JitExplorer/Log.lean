/-
**The log.**

The explorer logs under one package logger with any number of children.  Setting it up chooses the
level, adds a handler if there is none yet, and brings every handler to that level, so a second
set-up changes the level and nothing else.

Main definitions:

* `Log.Level`, `Log.Entry`, `Log.Entry.render` — levels, records and their line;
* `Log.loggerName` — the names of the package logger and of its children;
* `Log.Logger`, `Log.Logger.setUp` — what is set of one logger, and the set-up.
-/

import JitExplorer.Text.Lines

set_option autoImplicit false

namespace JitExplorer.Log

/-- The levels of records. -/
inductive Level where
  | debug
  | info
  | warning
  | error
  | critical
  deriving DecidableEq, Repr

/-- How severe a level is. -/
def Level.severity : Level → Nat
  | .debug => 10
  | .info => 20
  | .warning => 30
  | .error => 40
  | .critical => 50

/-- The name of a level. -/
def Level.name : Level → String
  | .debug => "DEBUG"
  | .info => "INFO"
  | .warning => "WARNING"
  | .error => "ERROR"
  | .critical => "CRITICAL"

/-- A record. -/
structure Entry where
  level : Level
  message : String
  deriving DecidableEq, Repr

/-- The line of a record, behind its time stamp. -/
def Entry.render (stamp : String) (entry : Entry) : String :=
  stamp ++ " [" ++ entry.level.name ++ "] " ++ entry.message ++ "\n"

/-- The name of the package logger. -/
def packageName : String := "numba_explorer"

/-- The full name of a child of the package logger; without a child, the package's own. -/
def loggerName : Option String → String
  | none => packageName
  | some child => packageName ++ "." ++ child

/-- What is set of a logger: its level, if one was chosen, and the levels of its handlers. -/
structure Logger where
  level : Option Level := none
  handlers : List Level := []
  deriving DecidableEq, Repr

namespace Logger

/-- The level that a set-up chooses. -/
def chosenLevel (verbose : Bool) : Level :=
  if verbose then .debug else .info

/-- **The logger after a set-up.** -/
def setUp (verbose : Bool) (logger : Logger) : Logger :=
  let level := chosenLevel verbose
  let handlers := if logger.handlers.isEmpty then [level] else logger.handlers
  { level := some level, handlers := handlers.map fun _ => level }

/-- The level that a logger without one of its own goes by. -/
def defaultLevel : Level := .warning

/-- A record is severe enough for a level. -/
def passes (entry : Entry) (level : Level) : Bool :=
  level.severity ≤ entry.level.severity

end Logger

end JitExplorer.Log
