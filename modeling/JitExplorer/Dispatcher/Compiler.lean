/-
**A toolchain over dispatchers.**

The compiler has an optimization level, a version that decides whether more debug information is
supported, and a module with dispatchers.  The answer about the version is kept once it was given.
So are rebuilds with debug information: one rebuild per overload, unless it fails.

A specialization names the overload and, by its method, the dispatcher through which the overload
was found.  Nothing makes sure that the one belongs to the other: what is rebuilt is kept by the
overload, but made with what the dispatcher says.

Everything that the compiler is asked to do beyond looking is recorded as an event.

Main definitions:

* `Dispatcher.Compiler`, `Dispatcher.Event` — the state of the compiler and what is recorded;
* `Dispatcher.Compiler.handle?` — the dispatcher through which an overload was found;
* `Dispatcher.Compiler.rebuild` — the library with debug information of an overload;
* `Dispatcher.Compiler.emit` — a stage of a specialization;
* `Dispatcher.Compiler.toolchain` — the toolchain.

Main results:

* `Dispatcher.Compiler.rebuild_of_built` — a rebuild that is kept is not made again.
-/

import JitExplorer.Dispatcher.TypedListing
import JitExplorer.Filter.Assembly
import JitExplorer.Filter.Marker
import JitExplorer.Filter.Metadata
import JitExplorer.Toolchain

set_option autoImplicit false

namespace JitExplorer.Dispatcher

/-- What is recorded. -/
inductive Event where
  /-- A source was executed at an optimization level. -/
  | executed (level : Nat)
  /-- The front end was run on a dispatcher's source. -/
  | frontend (name : String)
  /-- A dispatcher was compiled again with the given options and locals. -/
  | rebuilt (name signature : String) (options locals : Settings)
  deriving Repr

/-- The state of the compiler. -/
structure Compiler where
  world : World
  level : Nat := 3
  /-- The answer about more debug information, once it was given. -/
  supported : Option Bool := none
  /-- The rebuilds that are kept, by their overloads. -/
  builds : List (Ref × Library) := []
  /-- The dispatchers that have dropped their overloads. -/
  dropped : List Nat := []
  events : List Event := []

namespace Compiler

/-- An event is recorded. -/
def record (compiler : Compiler) (event : Event) : Compiler :=
  { compiler with events := compiler.events ++ [event] }

/-- The compiler without anything that it keeps for later. -/
def forget (compiler : Compiler) : Compiler :=
  { compiler with supported := none, builds := [] }

/-- A dispatcher drops its overloads. -/
def dropOverloads (object : Ref) (compiler : Compiler) : Compiler :=
  match object with
  | binding :: _ => { compiler with dropped := binding :: compiler.dropped }
  | [] => compiler

/-! ### Objects -/

/-- The dispatcher that an object belongs to. -/
def dispatcher? (compiler : Compiler) (object : Ref) : Option Dispatcher :=
  compiler.world.dispatcher? object

/-- The dispatcher through which a specialization was found. -/
def handle? (compiler : Compiler) (s : Specialization) : Option Dispatcher :=
  compiler.dispatcher? s.method.object

/-- The overload of an object. -/
def overload? (compiler : Compiler) (object : Ref) : Option Overload :=
  match object with
  | [_, _, place] =>
      match compiler.dispatcher? object with
      | some dispatcher => ((dispatcher.overloads.items?.getD [])[place]?).join
      | none => none
  | _ => none

/-- An object still belongs to its dispatcher's overloads. -/
def isKept (compiler : Compiler) (object : Ref) : Bool :=
  match object.head? with
  | some binding => !compiler.dropped.contains binding
  | none => false

/-- A specialization still stands among the overloads of the dispatcher through which it was found.
-/
def isListed (compiler : Compiler) (s : Specialization) : Bool :=
  s.object.head? == s.method.object.head? && compiler.isKept s.object

/-- The overloads of the dispatcher that an object belongs to, as they are now. -/
def overloads (compiler : Compiler) (object : Ref) : Container (Option Overload) :=
  match compiler.dispatcher? object with
  | some dispatcher => if compiler.isKept object then dispatcher.overloads else .mapping []
  | none => .missing

/-! ### Settings of a run -/

/-- The optimization level of a run. -/
def levelOf (options : StageOptions) : Nat :=
  if options.optimize then 3 else 0

/-- The optimization level is set for the whole run. -/
def configure (options : StageOptions) (compiler : Compiler) : Answer Compiler Unit where
  state := { compiler with level := levelOf options }
  log :=
    [{ level := .debug
       message := "Numba " ++ compiler.world.version ++ ", optimization level " ++
        Text.natText (levelOf options) }]
  result := .ok ()

/-- The first version that supports more debug information. -/
def elevationVersion : List Int := [0, 57]

/-- A version is not older than another one: numbers are compared from the front, and a version that
ends first is the older one. -/
def isAtLeast : List Int → List Int → Bool
  | _, [] => true
  | [], _ :: _ => false
  | m :: ms, n :: ns => if m = n then isAtLeast ms ns else n < m

/-- A version supports more debug information. -/
def versionSupports (numbers : Option (List Int)) : Bool :=
  match numbers with
  | some numbers => isAtLeast numbers elevationVersion
  | none => false

/-- A truth value as it is written in the log. -/
def boolText (b : Bool) : String :=
  if b then "True" else "False"

/-- The answer about more debug information is given once and kept. -/
def supportsCodegenParams (compiler : Compiler) : Answer Compiler Bool :=
  match compiler.supported with
  | some answer => .of compiler (.ok answer)
  | none =>
      let answer := versionSupports compiler.world.versionNumbers
      { state := { compiler with supported := some answer }
        log := [{ level := .debug, message := "Codegen parameters supported: " ++ boolText answer }]
        result := .ok answer }

/-! ### Discovery -/

/-- The methods of a callable: one, if the module at hand defines it and still has its name. -/
def methods (callable : Callable) (context : Context) (compiler : Compiler) :
    Answer Compiler (List Method) :=
  match compiler.dispatcher? callable.object with
  | none => .of compiler (.ok [])
  | some dispatcher =>
      let owner := dispatcher.owner.getD context.name
      if owner = context.name && !compiler.world.isNameless then
        .of compiler
          (dispatcher.listing.definitionLine.map fun line =>
            [{ callable, line, object := callable.object ++ [0] }])
      else
        { state := compiler
          log :=
            [{ level := .debug
               message := "Skipping " ++ callable.name ++ ": defined in " ++ owner }]
          result := .ok [] }

/-- The owner of overloads as it is named in messages. -/
def ownerText (method : Method) : String :=
  "overloads of " ++ method.callable.name

/-- The overloads of a method. -/
def specializations (method : Method) (compiler : Compiler) :
    Answer Compiler (List (Option Ref)) :=
  .of compiler
    (match (compiler.overloads method.object).normalize (ownerText method) with
      | .ok shape => .ok (Binding.placed method.object 0 shape.toList)
      | .error error => .error (.explorer error))

/-- The argument types of an overload. -/
def argTypes (object : Ref) (compiler : Compiler) : Answer Compiler (List String) :=
  .of compiler
    (match compiler.overload? object with
      | some (.result result) => .ok result.argTypes
      | some (.descriptor descriptor) => descriptor.argTypes
      | none => .ok [])

/-! ### Stages -/

/-- What is raised for a missing field of an object of the named type. -/
def missingField (typeName field : String) : Failure :=
  .ordinary "AttributeError" ("'" ++ typeName ++ "' object has no attribute '" ++ field ++ "'")

/-- The name of a type without the module in front of it. -/
def shortTypeName (typeName : String) : String :=
  String.ofList (typeName.toList.reverse.takeWhile (· != '.')).reverse

/-- The compile result of a specialization.  What is none lacks the field that it is asked for. -/
def resultOf (compiler : Compiler) (s : Specialization) (field : String) :
    Except Failure CompileResult :=
  match compiler.overload? s.object with
  | some (.result result) => .ok result
  | some (.descriptor descriptor) =>
      match descriptor.first with
      | .signature _ => .error (missingField "Signature" field)
      | .holder typeName _ => .error (missingField (shortTypeName typeName) field)
  | none => .error (missingField "NoneType" field)

/-- The front end is run on the source of a specialization. -/
def runFrontend (s : Specialization) (compiler : Compiler) : Answer Compiler Frontend :=
  match compiler.handle? s with
  | some dispatcher =>
      .of (compiler.record (.frontend dispatcher.name)) dispatcher.frontend
  | none => .of compiler (.ok {})

/-- The lowered form is what the front end dumps. -/
def lowered (s : Specialization) (compiler : Compiler) : Answer Compiler String :=
  (runFrontend s compiler).map Frontend.dump

/-- The typing of a specialization, or the error of a stage that needs it. -/
def typingOf (compiler : Compiler) (s : Specialization) (stage : Stage) :
    Except Failure (CompileResult × Typing) :=
  match compiler.resultOf s "type_annotation" with
  | .error failure => .error failure
  | .ok result =>
      match result.typing with
      | some typing => .ok (result, typing)
      | none => .error (.explorer (.extraction (.untyped stage s.callable.name s.argTypes)))

/-- The blocks that a typing shows: its own ones, or else those of the form that it was made
from. -/
def shownBlocks (typing : Typing) : Except Failure Blocks :=
  match typing.blocks with
  | some (block :: blocks) => .ok (block :: blocks)
  | _ =>
      match typing.lowered with
      | some blocks => .ok blocks
      | none => .error (missingField "Annotation" "func_ir")

/-- The blocks of the typed form: the annotated ones, or without optimization those of the front
end. -/
def typedBlocks (s : Specialization) (typing : Typing) (options : StageOptions)
    (compiler : Compiler) : Answer Compiler Blocks :=
  if options.optimize then .of compiler (shownBlocks typing)
  else (runFrontend s compiler).map Frontend.blocks

/-- Debug information is wanted unless it is declined. -/
def withDebugInfo (options : StageOptions) : Bool :=
  options.debugInfo != .none

/-- The typed form of a specialization. -/
def typed (s : Specialization) (options : StageOptions) (compiler : Compiler) :
    Answer Compiler String :=
  match compiler.typingOf s .typed with
  | .error failure => .of compiler (.error failure)
  | .ok (result, typing) =>
      (typedBlocks s typing options compiler).map fun blocks =>
        typedText (s.callable.name ++ result.signature) typing.types blocks
          (withDebugInfo options)

/-- A text as it is, or with debug information taken out by a filter. -/
def filtered (filter : String → String) (options : StageOptions) (text : String) : String :=
  if withDebugInfo options then text else filter text

/-- The listing with type warnings; the dispatcher has to have the overload. -/
def warntype (s : Specialization) (options : StageOptions) (compiler : Compiler) :
    Answer Compiler String :=
  .of compiler
    (match compiler.typingOf s .warntype with
      | .error failure => .error failure
      | .ok (result, _) =>
          if compiler.isListed s then
            result.typesText.map (filtered Marker.stripText options)
          else .error (.explorer (.extraction (.noOverload s.callable.name s.argTypes))))

/-! ### Rebuilds -/

/-- What a specialization is compiled again from, if that goes through a dispatcher. -/
def recipe (s : Specialization) (dispatcher : Dispatcher) : Recipe where
  function := s.method.object.take 1
  options := dispatcher.options.forDebugging
  locals := dispatcher.locals

/-- The event of an overload that is compiled again. -/
def rebuiltEvent (s : Specialization) (dispatcher : Dispatcher) (result : CompileResult) : Event :=
  let made := recipe s dispatcher
  .rebuilt dispatcher.name result.signature made.options made.locals

/-- An overload is compiled again with debug information, and kept if that succeeds. -/
def recompile (s : Specialization) (dispatcher : Dispatcher) (result : CompileResult)
    (compiler : Compiler) : Answer Compiler Library :=
  let after := compiler.record (rebuiltEvent s dispatcher result)
  let log : List Log.Entry :=
    [{ level := .debug
       message := "Recompiling " ++ s.callable.name ++ result.signature ++ " with debug info" }]
  match result.debugLibrary (recipe s dispatcher) with
  | .error failure => { state := after, log, result := .error failure }
  | .ok library =>
      { state := { after with builds := (s.object, library) :: after.builds }, log
        result := .ok library }

/-- The library with debug information of a specialization.  What is kept for the overload comes
first; then the overload's own library, if the dispatcher was told to keep debug information; and
otherwise the overload is compiled again. -/
def rebuild (s : Specialization) (compiler : Compiler) : Answer Compiler Library :=
  match compiler.builds.lookup s.object with
  | some library => .of compiler (.ok library)
  | none =>
      match compiler.handle? s with
      | none => .of compiler (.error (missingField "object" "targetoptions"))
      | some dispatcher =>
          if dispatcher.options.isOn Settings.debugName then
            .of compiler ((compiler.resultOf s "library").map CompileResult.library)
          else
            match compiler.resultOf s "signature" with
            | .error failure => .of compiler (.error failure)
            | .ok result => recompile s dispatcher result compiler

/-- A rebuild that is kept is not made again. -/
theorem rebuild_of_built (s : Specialization) (compiler : Compiler) (library : Library)
    (h : compiler.builds.lookup s.object = some library) :
    rebuild s compiler = .of compiler (.ok library) := by
  simp [rebuild, h]

/-- The library that a text is taken from: the rebuilt one, unless debug information is unwanted. -/
def libraryFor (s : Specialization) (options : StageOptions) (compiler : Compiler) :
    Answer Compiler Library :=
  if withDebugInfo options then rebuild s compiler
  else .of compiler ((compiler.resultOf s "library").map CompileResult.library)

/-- A text of a library, with debug information taken out on demand. -/
def libraryText (s : Specialization) (options : StageOptions)
    (text : Library → Except Failure String) (filter : String → String) (compiler : Compiler) :
    Answer Compiler String :=
  (libraryFor s options compiler).bind fun library compiler =>
    .of compiler ((text library).map (filtered filter options))

/-- The text of a stage. -/
def stageText (stage : Stage) (s : Specialization) (options : StageOptions) (compiler : Compiler) :
    Answer Compiler String :=
  match stage with
  | .lowered => lowered s compiler
  | .typed => typed s options compiler
  | .warntype => warntype s options compiler
  | .llvm => libraryText s options Library.function Metadata.stripText compiler
  | .llvmModule => libraryText s options Library.module Metadata.stripText compiler
  | .native => libraryText s options Library.assembly Assembly.stripText compiler

/-- **A stage of a specialization.** -/
def emit (stage : Stage) (s : Specialization) (options : StageOptions) (compiler : Compiler) :
    Emission Compiler :=
  (stageText stage s options compiler).emission

/-- **The toolchain over dispatchers.** -/
def toolchain : Toolchain Compiler where
  configure := configure
  executed := fun _ compiler => compiler.record (.executed compiler.level)
  supportsCodegenParams := supportsCodegenParams
  bindings := fun _ compiler => .of compiler (.ok compiler.world.names)
  isCallable := fun object compiler => .of compiler (.ok (compiler.dispatcher? object).isSome)
  displayName := fun name object compiler =>
    .of compiler (.ok (((compiler.dispatcher? object).map Dispatcher.name).getD name))
  methods := methods
  specializations := specializations
  argTypes := argTypes
  emit := emit

end Compiler

end JitExplorer.Dispatcher
