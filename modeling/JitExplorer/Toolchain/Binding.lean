/-
**Bindings.**

A module binds names to objects.  An object may be bound to several names; such a binding refers to
an earlier one, and both stand for the object of the binding that refers to no other one.  A
callable is known by the place of that binding, its methods by their places below it, and the
specializations of a method by theirs below the method.

Main definitions:

* `Binding` — what a name is bound to;
* `Binding.origin`, `Binding.object` — the binding that an object was bound by first, and the
  object;
* `Binding.callable?` — the callable that an object belongs to;
* `Binding.placed` — items known by their places below an object.
-/

import JitExplorer.Toolchain

set_option autoImplicit false

namespace JitExplorer

/-- What a name is bound to. -/
inductive Binding (α : Type) where
  /-- An object that is no callable. -/
  | plain
  /-- The same object as another binding. -/
  | same (other : Nat)
  | callable (callable : α)

namespace Binding

variable {α : Type}

/-- What the binding at a place is bound to. -/
def at? (bindings : List (String × Binding α)) (place : Nat) : Option (Binding α) :=
  bindings[place]?.map Prod.snd

/-- The binding that refers to no other one, following at most `fuel` references. -/
def follow (bindings : List (String × Binding α)) : Nat → Nat → Nat
  | 0, place => place
  | fuel + 1, place =>
      match at? bindings place with
      | some (.same other) => follow bindings fuel other
      | _ => place

/-- The binding that the object of a binding was bound by first. -/
def origin (bindings : List (String × Binding α)) (place : Nat) : Nat :=
  follow bindings bindings.length place

/-- The object of a binding. -/
def object (bindings : List (String × Binding α)) (place : Nat) : Ref :=
  [origin bindings place]

/-- The callable that an object belongs to. -/
def callable? (bindings : List (String × Binding α)) (object : Ref) : Option α :=
  match object.head?.bind (at? bindings) with
  | some (.callable found) => some found
  | _ => none

/-- Items known by their places below an object, the first one having the given place; gaps stay
gaps. -/
def placed {β : Type} (object : Ref) (place : Nat) : List (Option β) → List (Option Ref)
  | [] => []
  | none :: items => none :: placed object (place + 1) items
  | some _ :: items => some (object ++ [place]) :: placed object (place + 1) items

end Binding

end JitExplorer
