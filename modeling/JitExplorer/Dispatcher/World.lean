/-
**Dispatchers and their overloads.**

A dispatcher is a callable of a just-in-time compiler.  It keeps one compile result per tuple of
argument types that it was called with.  A compile result carries a signature, the compiled library,
possibly a typing, and what a rebuild with debug information would give.  A rebuild works from a
recipe: the function of a dispatcher, with options and locals.  Each text is given when it is asked
for, and asking may raise something.

Main definitions:

* `Dispatcher.Library`, `Dispatcher.Typing`, `Dispatcher.CompileResult` — what the compiler keeps
  for an overload;
* `Dispatcher.Recipe` — what an overload is compiled again from;
* `Dispatcher` — a dispatcher;
* `Dispatcher.World` — the compiler and the module that it works in.
-/

import JitExplorer.Container
import JitExplorer.Descriptor
import JitExplorer.Dispatcher.Setting
import JitExplorer.SourceListing
import JitExplorer.Toolchain.Binding

set_option autoImplicit false

namespace JitExplorer

namespace Dispatcher

/-! ### Overloads -/

/-- A compiled library: the texts that it can be asked for. -/
structure Library where
  module : Except Failure String
  function : Except Failure String
  assembly : Except Failure String

/-- An instruction: its text, the variable that it assigns, and its source line. -/
structure Instruction where
  text : String
  target : Option String := none
  line : Option Int := none
  deriving DecidableEq, Repr

/-- Blocks of instructions by their labels. -/
abbrev Blocks := List (Int × List Instruction)

/-- The typing of an overload: the types of variables, the blocks that it keeps, and the
blocks of the form that it was made from. -/
structure Typing where
  types : List (String × String) := []
  blocks : Option Blocks := none
  lowered : Option Blocks := none
  deriving DecidableEq, Repr

/-- What an overload is compiled again from: the function of the dispatcher at some place, with
options and locals. -/
structure Recipe where
  function : Ref
  options : Settings
  locals : Settings
  deriving DecidableEq, Repr

/-- What the compiler keeps for an overload. -/
structure CompileResult where
  argTypes : List String
  returnType : String
  typing : Option Typing
  library : Library
  /-- The listing of the types, if it can be given. -/
  typesText : Except Failure String
  /-- The library that a rebuild gives.  The same recipe always gives the same. -/
  debugLibrary : Recipe → Except Failure Library

/-- What may stand in the place of an overload. -/
inductive Overload where
  | result (result : CompileResult)
  /-- No compile result, but something that leads to a signature. -/
  | descriptor (descriptor : Descriptor)

/-- Argument types as a tuple: a single one is followed by a comma. -/
def tupleText : List String → String
  | [] => "()"
  | [argType] => "(" ++ argType ++ ",)"
  | argTypes => "(" ++ Text.join ", " argTypes ++ ")"

/-- The text of a signature. -/
def signatureText (argTypes : List String) (returnType : String) : String :=
  tupleText argTypes ++ " -> " ++ returnType

/-- The signature of a compile result. -/
def CompileResult.signature (result : CompileResult) : String :=
  signatureText result.argTypes result.returnType

/-- What the compiler's front end makes of a source: a dump, and blocks of instructions. -/
structure Frontend where
  dump : String := ""
  blocks : Blocks := []
  deriving DecidableEq, Repr

end Dispatcher

/-- A dispatcher.  Its owner is the module that defines it; none is the module at hand. -/
structure Dispatcher where
  name : String
  owner : Option String := none
  listing : SourceListing
  overloads : Container (Option Dispatcher.Overload) := .missing
  options : Dispatcher.Settings := {}
  locals : Dispatcher.Settings := {}
  frontend : Except Failure Dispatcher.Frontend := .ok {}

namespace Dispatcher

/-! ### The compiler -/

/-- The compiler and the module that it works in: its version as a text, the numbers of the version
if it tells them, the names that are bound when the source starts to run, besides those of every
module, and those that it binds. -/
structure World where
  version : String := "0.68.1"
  versionNumbers : Option (List Int) := none
  preset : List String := []
  bindings : List (String × Binding Dispatcher) := []

namespace World

/-- A name is bound: a name that is bound again keeps its place. -/
def bindName {α : Type} (name : String) (object : α) : List (String × α) → List (String × α)
  | [] => [(name, object)]
  | (other, old) :: names =>
      if name = other then (name, object) :: names else (other, old) :: bindName name object names

/-- The name under which a module keeps its own name. -/
def ownName : String := "__name__"

/-- The names that every module binds before its source runs. -/
def standardNames : List String :=
  [ownName, "__doc__", "__package__", "__loader__", "__spec__", "__file__", "__cached__",
    "__builtins__"]

/-- The names that a module answers for by itself, whatever they are bound to. -/
def fixedNames : List String := ["__class__", "__dict__"]

/-- The object that a name stands for when it is bound to a given one. -/
def objectFor (name : String) (object : Ref) : Ref :=
  if fixedNames.contains name then [] else object

/-- The names of the module after the source ran, with the bindings that they stand for. -/
def names (world : World) : List (String × Ref) :=
  let preset :=
    (standardNames ++ world.preset).foldl (fun names name => bindName name [] names) []
  world.bindings.zipIdx.foldl
    (fun names binding =>
      let name := binding.1.1
      bindName name (objectFor name (Binding.object world.bindings binding.2)) names)
    preset

/-- The source has bound the name of its module to something else.  Nothing counts as defined by a
module without a name. -/
def isNameless (world : World) : Bool :=
  world.bindings.any fun binding => binding.1 == ownName

/-- The dispatcher that an object belongs to. -/
def dispatcher? (world : World) (object : Ref) : Option Dispatcher :=
  Binding.callable? world.bindings object

end World

end Dispatcher

end JitExplorer
