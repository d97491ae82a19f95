/-
**What can go wrong.**

The explorer has six errors of its own, each kept as its cause: a request on the command line, a
source that could not be loaded, a container of an unknown shape, a stage that could not be
extracted, an output file that breaks the framing, and a general one.  Everything else that ends a
computation is raised elsewhere, by the source, by the compiler or by the operating system; of that
the explorer knows the name of its kind, its text and its nature.

Main definitions:

* `Raised`, `Nature` — something raised outside the explorer;
* `LoadFault`, `ExtractionFault`, `ExplorerError` — the explorer's own errors as causes;
* `ExplorerError.message` — the one place where an error gets its wording;
* `Failure` — either of the two, with `Failure.kind`, `Failure.text` and `Failure.isOrdinary`;
* `numeral` — the numeral of a number of any size, or what it is refused with.
-/

import JitExplorer.Datum
import JitExplorer.Stage

set_option autoImplicit false

namespace JitExplorer

/-! ### Raised elsewhere -/

/-- The nature of something raised outside the explorer. -/
inductive Nature where
  /-- The operating system refused. -/
  | system
  /-- The source is not a program; the line is absent if it is not known. -/
  | syntaxFault (line : Option Int) (detail : String)
  /-- Any other failure that a program is expected to handle. -/
  | ordinary
  /-- A request to end the program, with a status of any type. -/
  | exit (status : Datum)
  /-- An interruption that no handler may swallow. -/
  | interrupt
  /-- No failure at all: the computation does not come to an end. -/
  | endless
  deriving DecidableEq, Repr

/-- Something raised outside the explorer: the name of its kind, its text and its nature. -/
structure Raised where
  kind : String
  text : String
  nature : Nature := .ordinary
  deriving DecidableEq, Repr

/-! ### The explorer's own errors -/

/-- Why a source was not loaded. -/
inductive LoadFault where
  /-- There is no such file. -/
  | missing
  /-- Running the source raised something. -/
  | raised (cause : Raised)
  /-- A fault that is known by its wording only. -/
  | reported (detail : String)
  deriving DecidableEq, Repr

/-- Why a stage was not extracted. -/
inductive ExtractionFault where
  /-- No stage is spelled like this. -/
  | unknownFormat (format : Datum)
  /-- The specialization carries no type information. -/
  | untyped (stage : Stage) (name : String) (argTypes : List String)
  /-- The dispatcher has dropped the specialization. -/
  | noOverload (name : String) (argTypes : List String)
  /-- The compiler raised something. -/
  | raised (stage : Stage) (name : String) (argTypes : List String) (cause : Raised)
  /-- A fault that is known by its wording only. -/
  | reported (message : String)
  deriving DecidableEq, Repr

/-- The errors that the explorer raises itself. -/
inductive ExplorerError where
  | general (message : String)
  | arguments (messages : List String)
  | load (path : String) (fault : LoadFault)
  | shape (typeName owner : String)
  | extraction (fault : ExtractionFault)
  | framing (line : Int) (detail : String)
  deriving DecidableEq, Repr

/-! ### Wording -/

/-- A number as it is shown in messages when it may be absent. -/
def optionalIntText : Option Int → String
  | some n => Text.intText n
  | none => "None"

/-- The wording of what was raised, after the name of its kind. -/
def Raised.described (r : Raised) : String :=
  r.kind ++ ": " ++ r.text

/-- The wording of a load fault, without the path.  A source that is not a program is described by
its line, a refusal of the operating system speaks for itself, and anything else is named. -/
def LoadFault.detail : LoadFault → String
  | .missing => "no such file"
  | .raised cause =>
      match cause.nature with
      | .syntaxFault line detail =>
          "syntax error at line " ++ optionalIntText line ++ ": " ++ detail
      | .system => cause.text
      | _ => cause.described
  | .reported detail => detail

/-- What a load fault was raised by. -/
def LoadFault.cause? : LoadFault → Option Raised
  | .raised cause => some cause
  | _ => none

/-- The argument types of a specialization between parentheses. -/
def argTypesText (argTypes : List String) : String :=
  "(" ++ Text.join ", " argTypes ++ ")"

/-- The wording of an extraction fault. -/
def ExtractionFault.message : ExtractionFault → String
  | .unknownFormat format =>
      "Unknown output format " ++ format.quoted ++ " (expected one of " ++
        Text.join ", " (Stage.all.map Stage.text) ++ ")"
  | .untyped _ name _ =>
      "No type information for " ++ name ++ " (overload loaded from the on-disk cache?)"
  | .noOverload name argTypes => name ++ " has no overload for " ++ argTypesText argTypes
  | .raised stage name argTypes cause =>
      stage.text ++ " failed for " ++ name ++ argTypesText argTypes ++ ": " ++ cause.described
  | .reported message => message

theorem ExtractionFault.message_raised (stage : Stage) (name : String) (argTypes : List String)
    (cause : Raised) :
    (ExtractionFault.raised stage name argTypes cause).message =
      stage.text ++ " failed for " ++ name ++ argTypesText argTypes ++ ": " ++ cause.described := rfl

/-- The name of the specialization that an extraction fault is about. -/
def ExtractionFault.name? : ExtractionFault → Option String
  | .untyped _ name _ => some name
  | .noOverload name _ => some name
  | .raised _ name _ _ => some name
  | _ => none

/-- The argument types of the specialization that an extraction fault is about. -/
def ExtractionFault.argTypes : ExtractionFault → List String
  | .untyped _ _ argTypes => argTypes
  | .noOverload _ argTypes => argTypes
  | .raised _ _ argTypes _ => argTypes
  | _ => []

/-- What an extraction fault says about the stage: its spelling, or the format that names none. -/
def ExtractionFault.stage? : ExtractionFault → Option Datum
  | .unknownFormat format => some format
  | .untyped stage _ _ => some (.text stage.text)
  | .raised stage _ _ _ => some (.text stage.text)
  | _ => none

/-- What an extraction fault was raised by. -/
def ExtractionFault.cause? : ExtractionFault → Option Raised
  | .raised _ _ _ cause => some cause
  | _ => none

/-- The name of the kind of an error. -/
def ExplorerError.kind : ExplorerError → String
  | .general _ => "ExplorerError"
  | .arguments _ => "ArgumentError"
  | .load _ _ => "LoadError"
  | .shape _ _ => "UnsupportedSpecializationShape"
  | .extraction _ => "ExtractionError"
  | .framing _ _ => "FramingError"

/-- **The wording of an error.** -/
def ExplorerError.message : ExplorerError → String
  | .general message => message
  | .arguments messages => Text.join "; " messages
  | .load path fault => "Failed to load " ++ path ++ ": " ++ fault.detail
  | .shape typeName owner =>
      "Cannot handle specializations of type " ++ typeName ++ " (" ++ owner ++ ")"
  | .extraction fault => fault.message
  | .framing line detail => "line " ++ Text.intText line ++ ": " ++ detail

/-! ### Failures -/

/-- What ends a computation: an error of the explorer or something raised elsewhere. -/
inductive Failure where
  | explorer (error : ExplorerError)
  | foreign (raised : Raised)
  deriving DecidableEq, Repr

namespace Failure

/-- The name of the kind of a failure. -/
def kind : Failure → String
  | .explorer error => error.kind
  | .foreign raised => raised.kind

/-- The text of a failure. -/
def text : Failure → String
  | .explorer error => error.message
  | .foreign raised => raised.text

/-- A failure as it is seen from outside: the explorer's own errors are ordinary ones. -/
def toRaised : Failure → Raised
  | .explorer error => { kind := error.kind, text := error.message }
  | .foreign raised => raised

/-- The failures that a program is expected to handle: all but a request to end it, an interruption
and a computation without end. -/
def isOrdinary (f : Failure) : Bool :=
  match f.toRaised.nature with
  | .exit _ => false
  | .interrupt => false
  | .endless => false
  | _ => true

/-- The failures that come from the operating system. -/
def isSystem (f : Failure) : Bool :=
  f.toRaised.nature == .system

@[simp] theorem isOrdinary_explorer (error : ExplorerError) :
    (explorer error).isOrdinary = true := rfl

/-- A failure that is known by the name of its kind and its text. -/
def ordinary (kind text : String) : Failure :=
  .foreign { kind, text }

/-- What stands for a computation that does not come to an end.  Nothing handles it. -/
def endless : Failure :=
  .foreign { kind := "", text := "", nature := .endless }

/-- A computation does not come to an end. -/
def isEndless (f : Failure) : Bool :=
  f.toRaised.nature == .endless

/-- What a number with too many digits is refused with when it is to be written. -/
def oversized : Failure :=
  ordinary "ValueError"
    ("Exceeds the limit (" ++ Text.natText Text.maxDigits ++
      " digits) for integer string conversion; " ++
      "use sys.set_int_max_str_digits() to increase the limit")

end Failure

/-- **The canonical numeral of a number of any size,** unless it has too many digits. -/
def numeral (n : Int) : Except Failure String :=
  if Text.maxDigits < (Text.natDigits n.natAbs).length then .error .oversized
  else .ok (Text.intText n)

end JitExplorer
