/-
**A toolchain that follows a script.**

The script lists bindings, callables, methods and specializations, and says for each specialization
which text a stage has and what it raises.  Configuring, listing the bindings and every stage are
recorded as calls.  A script says whether more debug information is supported; one that does not
say so has nothing to configure.

Main definitions:

* `Script.Item`, `Script.Definition`, `Script.Function`, `Script` — what a script says;
* `Script.Call` — what is recorded;
* `Script.toolchain` — the toolchain that follows the script.
-/

import JitExplorer.Container
import JitExplorer.Toolchain.Binding

set_option autoImplicit false

namespace JitExplorer

namespace Script

/-- A specialization: its argument types or what asking for them raises, and for some stages the
text and what is raised after it was written. -/
structure Item where
  argTypes : Except Failure (List String)
  texts : List (Stage × String) := []
  faults : List (Stage × Failure) := []

/-- A method: its line, the module that defines it if that is not the one at hand, and its
specializations. -/
structure Definition where
  line : Int
  owner : Option String := none
  items : Container (Option Item) := .missing

/-- A callable with its own name, if it has one. -/
structure Function where
  name : Option String := none
  definitions : List Definition := []

/-- What is recorded. -/
inductive Call where
  | configure (options : StageOptions)
  | bindings
  | emit (stage : Stage) (name : String) (options : StageOptions)
  deriving DecidableEq, Repr

end Script

/-- What a script says, and the calls that were made so far. -/
structure Script where
  codegenParams : Option Bool := none
  bindings : List (String × Binding Script.Function) := []
  calls : List Script.Call := []

namespace Script

/-- A call is recorded. -/
def record (script : Script) (call : Call) : Script :=
  { script with calls := script.calls ++ [call] }

/-! ### Objects -/

/-- The callable that an object belongs to. -/
def function? (script : Script) (object : Ref) : Option Function :=
  Binding.callable? script.bindings object

/-- The definitions of an object; none if it is no callable. -/
def definitions (script : Script) (object : Ref) : List Definition :=
  ((script.function? object).map Function.definitions).getD []

/-- The method of an object. -/
def definition? (script : Script) (object : Ref) : Option Definition :=
  match object with
  | _ :: place :: _ => (script.definitions object)[place]?
  | _ => none

/-- The specialization of an object. -/
def item? (script : Script) (object : Ref) : Option Item :=
  match object with
  | [_, _, place] =>
      match script.definition? object with
      | some definition => ((definition.items.items?.getD [])[place]?).join
      | none => none
  | _ => none

/-! ### Answers -/

/-- Settings are recorded by a script that says what is supported. -/
def configure (options : StageOptions) (script : Script) : Answer Script Unit :=
  match script.codegenParams with
  | none => .of script (.ok ())
  | some _ => .of (script.record (.configure options)) (.ok ())

/-- The bindings with their objects. -/
def listBindings (script : Script) : Answer Script (List (String × Ref)) :=
  .of (script.record .bindings)
    (.ok
      (script.bindings.zipIdx.map fun binding =>
        (binding.1.1, Binding.object script.bindings binding.2)))

/-- An object is a callable. -/
def isCallable (object : Ref) (script : Script) : Answer Script Bool :=
  .of script (.ok (script.function? object).isSome)

/-- A callable is shown under its own name, or else under the name that it is bound to. -/
def displayName (name : String) (object : Ref) (script : Script) : Answer Script String :=
  .of script
    (.ok
      (match (script.function? object).bind Function.name with
        | some own => if own.isEmpty then name else own
        | none => name))

/-- The methods of a callable that a module defines. -/
def methods (callable : Callable) (context : Context) (script : Script) :
    Answer Script (List Method) :=
  let isOwn (definition : Definition) : Bool :=
    match definition.owner with
    | none => true
    | some owner => owner == context.name
  let placed := (script.definitions callable.object).zipIdx.filter fun entry => isOwn entry.1
  .of script
    (.ok
      (placed.map fun entry =>
        { callable, line := entry.1.line, object := callable.object ++ [entry.2] }))

/-- The specializations of a method. -/
def specializations (method : Method) (script : Script) : Answer Script (List (Option Ref)) :=
  .of script
    (match script.definition? method.object with
      | none => .ok []
      | some definition =>
          match definition.items.normalize method.callable.name with
          | .ok shape => .ok (Binding.placed method.object 0 shape.toList)
          | .error error => .error (.explorer error))

/-- The argument types of a specialization. -/
def argTypes (object : Ref) (script : Script) : Answer Script (List String) :=
  .of script
    (match script.item? object with
      | some item => item.argTypes
      | none => .ok [])

/-- A truth value as it is written in scripted texts. -/
def boolText (b : Bool) : String :=
  if b then "true" else "false"

/-- The text of a stage that the script does not give. -/
def defaultText (stage : Stage) (s : Specialization) (options : StageOptions) : String :=
  stage.text ++ " " ++ s.shown ++ " optimize=" ++ boolText options.optimize ++ " debuginfo=" ++
    options.debugInfo.text ++ "\n"

/-- The text of a stage is written before anything is raised. -/
def emit (stage : Stage) (s : Specialization) (options : StageOptions) (script : Script) :
    Emission Script :=
  let item? := script.item? s.object
  let text := (item?.bind fun item => item.texts.lookup stage).getD (defaultText stage s options)
  { state := script.record (.emit stage s.callable.name options)
    written := [text]
    result :=
      match item?.bind fun item => item.faults.lookup stage with
      | some failure => .error failure
      | none => .ok () }

/-- **The toolchain that follows the script.** -/
def toolchain : Toolchain Script where
  configure := configure
  executed := fun _ script => script
  supportsCodegenParams := fun script => .of script (.ok (script.codegenParams.getD false))
  bindings := fun _ script => listBindings script
  isCallable := isCallable
  displayName := displayName
  methods := methods
  specializations := specializations
  argTypes := argTypes
  emit := emit

end Script

end JitExplorer
