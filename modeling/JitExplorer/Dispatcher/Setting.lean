/-
**Compiler settings.**

A dispatcher carries target options and declared locals: named settings of any type.  The explorer
hands them on as they are, apart from two options of its own.

Main definitions:

* `Dispatcher.Settings`, `Dispatcher.Settings.isOn` — named settings;
* `Dispatcher.Settings.forDebugging` — the options of a rebuild with debug information.

Main results:

* `Dispatcher.Settings.get?_forDebugging_of_ne` — all other options of a rebuild are the old ones.
-/

import JitExplorer.Datum
import JitExplorer.Table

set_option autoImplicit false

namespace JitExplorer.Dispatcher

/-- Named settings. -/
abbrev Settings := Table Datum

namespace Settings

/-- A name is set to a value unless it has one. -/
def setDefault (settings : Settings) (name : String) (value : Datum) : Settings :=
  match settings.get? name with
  | some _ => settings
  | none => settings.set name value

/-- A name is set and switched on. -/
def isOn (settings : Settings) (name : String) : Bool :=
  ((settings.get? name).map Datum.isOn).getD false

/-- The name of the option that asks for debug information. -/
def debugName : String := "debug"

/-- The name of the option that asks for bounds checks. -/
def boundsCheckName : String := "boundscheck"

/-- The options of a rebuild with debug information.  Bounds checks stay as they were; since debug
information would switch them on, they are switched off unless the options name them. -/
def forDebugging (settings : Settings) : Settings :=
  setDefault (settings.set debugName (.flag true)) boundsCheckName (.flag false)

theorem get?_setDefault_of_ne (settings : Settings) {name other : String} (value : Datum)
    (h : name ≠ other) : (settings.setDefault name value).get? other = settings.get? other := by
  unfold setDefault
  split
  · rfl
  · exact Table.get?_set_of_ne settings value h

/-- All other options of a rebuild are the old ones. -/
theorem get?_forDebugging_of_ne (settings : Settings) {name : String} (hd : debugName ≠ name)
    (hb : boundsCheckName ≠ name) : settings.forDebugging.get? name = settings.get? name := by
  unfold forDebugging
  rw [get?_setDefault_of_ne _ _ hb, Table.get?_set_of_ne _ _ hd]

end Settings

end JitExplorer.Dispatcher
