/-
**Toolchains.**

The explorer knows nothing about compilers.  A toolchain answers its questions: which names a loaded
module binds, which of them are callables, which methods and specializations these have, and what a
stage of a specialization looks like.  The objects of a toolchain are opaque here; an object is
known by its place among the toolchain's objects, and two objects are the same exactly if they have
the same place.

A toolchain has a state, and every question may change it, write to the log, and fail.

Main definitions:

* `Ref`, `Callable`, `Method`, `Specialization` — what is found in a module;
* `Answer`, `Emission` — what a toolchain gives back for a question;
* `Toolchain` — the questions.
-/

import JitExplorer.Failure
import JitExplorer.Log

set_option autoImplicit false

namespace JitExplorer

/-- An object of a toolchain, known by its place among the toolchain's objects. -/
abbrev Ref := List Nat

/-- A callable under the name that is shown for it. -/
structure Callable where
  name : String
  object : Ref
  deriving DecidableEq, Repr

/-- A definition of a callable, with its source line. -/
structure Method where
  callable : Callable
  line : Int
  object : Ref
  deriving DecidableEq, Repr

/-- A method compiled for certain argument types. -/
structure Specialization where
  callable : Callable
  argTypes : List String
  method : Method
  object : Ref
  deriving DecidableEq, Repr

/-- A specialization with its argument types, as it is shown in messages. -/
def Specialization.shown (s : Specialization) : String :=
  s.callable.name ++ argTypesText s.argTypes

/-- A freshly loaded module: its name and the file that it was loaded from. -/
structure Context where
  name : String
  path : String
  deriving DecidableEq, Repr

/-- What a toolchain gives back for a question: its next state, what it logged, and the answer. -/
structure Answer (σ α : Type) where
  state : σ
  log : List Log.Entry := []
  result : Except Failure α

namespace Answer

variable {σ α β : Type}

/-- An answer that changes nothing. -/
def of (state : σ) (result : Except Failure α) : Answer σ α :=
  { state, result }

/-- An answer with another result in place of a successful one. -/
def map (f : α → β) (answer : Answer σ α) : Answer σ β :=
  { state := answer.state, log := answer.log, result := answer.result.map f }

/-- A question that follows a successful answer. -/
def bind (answer : Answer σ α) (next : α → σ → Answer σ β) : Answer σ β :=
  match answer.result with
  | .error failure => { state := answer.state, log := answer.log, result := .error failure }
  | .ok a =>
      let later := next a answer.state
      { state := later.state, log := answer.log ++ later.log, result := later.result }

end Answer

/-- What a toolchain gives back for a stage: the pieces of text that it wrote, and how it ended. -/
structure Emission (σ : Type) where
  state : σ
  log : List Log.Entry := []
  written : List String := []
  result : Except Failure Unit

/-- The emission of a text that is written in one piece once it is known. -/
def Answer.emission {σ : Type} (answer : Answer σ String) : Emission σ where
  state := answer.state
  log := answer.log
  written :=
    match answer.result with
    | .ok text => [text]
    | .error _ => []
  result := answer.result.map fun _ => ()

/-- **What the explorer asks of a compiler.** -/
structure Toolchain (σ : Type) where
  /-- Settings are applied before a source is loaded. -/
  configure : StageOptions → σ → Answer σ Unit
  /-- The compiler takes notice that a source was executed in a module. -/
  executed : Context → σ → σ
  /-- The compiler can be asked for more debug information. -/
  supportsCodegenParams : σ → Answer σ Bool
  /-- The names that a module binds, with the objects, in order. -/
  bindings : Context → σ → Answer σ (List (String × Ref))
  /-- An object is a callable. -/
  isCallable : Ref → σ → Answer σ Bool
  /-- The name that is shown for an object that is bound to a name. -/
  displayName : String → Ref → σ → Answer σ String
  /-- The methods of a callable that a module defines. -/
  methods : Callable → Context → σ → Answer σ (List Method)
  /-- The specializations of a method; the container may have gaps. -/
  specializations : Method → σ → Answer σ (List (Option Ref))
  /-- The argument types of a specialization. -/
  argTypes : Ref → σ → Answer σ (List String)
  /-- A stage of a specialization. -/
  emit : Stage → Specialization → StageOptions → σ → Emission σ

end JitExplorer
