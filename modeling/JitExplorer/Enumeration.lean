/-
**Enumerating specializations.**

Every specialization of every callable that a module binds is listed: in the order of the bindings,
then of the methods, then of the specializations.  An object that is bound to several names is
listed under the first one only.

Main definitions:

* `Enumeration.ofMethod`, `Enumeration.ofMethods`, `Enumeration.ofCallable` — what one method or
  callable contributes;
* `Enumeration.ofBindings` — what the bindings contribute;
* `Enumeration.enumerate` — the specializations of a module.
-/

import JitExplorer.Job

set_option autoImplicit false

namespace JitExplorer.Enumeration

variable {σ : Type}

/-- The progress line of a callable. -/
def callableLine (name : String) : String :=
  "Function: " ++ name

/-- The progress line of a specialization. -/
def specializationLine (argTypes : List String) : String :=
  "    Method types: " ++ argTypesText argTypes

/-- The specializations of a callable's method among the items of its container; gaps are
skipped. -/
def ofItems (toolchain : Toolchain σ) (verbose : Bool) (callable : Callable) (method : Method) :
    List (Option Ref) → Job σ (List Specialization)
  | [] => pure []
  | none :: items => ofItems toolchain verbose callable method items
  | some object :: items => do
      let argTypes ← Job.ask (toolchain.argTypes object)
      Job.sayIf verbose (specializationLine argTypes)
      let others ← ofItems toolchain verbose callable method items
      pure ({ callable, argTypes, method, object } :: others)

/-- The specializations of a callable's method. -/
def ofMethod (toolchain : Toolchain σ) (verbose : Bool) (callable : Callable) (method : Method) :
    Job σ (List Specialization) := do
  let items ← Job.ask (toolchain.specializations method)
  ofItems toolchain verbose callable method items

/-- The specializations of some methods of a callable. -/
def ofMethods (toolchain : Toolchain σ) (verbose : Bool) (callable : Callable) :
    List Method → Job σ (List Specialization)
  | [] => pure []
  | method :: methods => do
      let here ← ofMethod toolchain verbose callable method
      let others ← ofMethods toolchain verbose callable methods
      pure (here ++ others)

/-- The specializations of an object that is bound to a name. -/
def ofCallable (toolchain : Toolchain σ) (verbose : Bool) (context : Context) (name : String)
    (object : Ref) : Job σ (List Specialization) := do
  let name ← Job.ask (toolchain.displayName name object)
  Job.sayIf verbose (callableLine name)
  let methods ← Job.ask (toolchain.methods { name, object } context)
  ofMethods toolchain verbose { name, object } methods

/-- The specializations of some bindings, given the callables that were already listed. -/
def ofBindings (toolchain : Toolchain σ) (verbose : Bool) (context : Context) (seen : List Ref) :
    List (String × Ref) → Job σ (List Specialization)
  | [] => pure []
  | (name, object) :: bindings => do
      let callable ← Job.ask (toolchain.isCallable object)
      if callable && !seen.contains object then
        let here ← ofCallable toolchain verbose context name object
        let others ← ofBindings toolchain verbose context (object :: seen) bindings
        pure (here ++ others)
      else ofBindings toolchain verbose context seen bindings

/-- **The specializations of a module.** -/
def enumerate (toolchain : Toolchain σ) (verbose : Bool) (context : Context) :
    Job σ (List Specialization) := do
  let bindings ← Job.ask (toolchain.bindings context)
  let found ← ofBindings toolchain verbose context [] bindings
  Job.log .debug
    ("Found " ++ Text.natText found.length ++ " specializations in " ++ context.path)
  pure found

end JitExplorer.Enumeration
