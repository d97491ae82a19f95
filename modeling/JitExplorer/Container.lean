/-
**Containers of specializations.**

A toolchain may keep the specializations of a method in several ways: none at all, a lone one, a
sequence, or a mapping, of which the values count.  The explorer brings them into one of three
shapes.  A container of another type is refused by the name of its type.

Main definitions:

* `Container` — the ways in which specializations may be kept;
* `Specializations`, `Specializations.toList` — the three shapes and their items in order;
* `Container.normalize` — the shape of a container.

Main results:

* `Container.toList_normalize` — the shape holds the items of the container, in order.
-/

import JitExplorer.Failure

set_option autoImplicit false

namespace JitExplorer

/-- The ways in which specializations may be kept. -/
inductive Container (α : Type) where
  /-- There is no container. -/
  | missing
  /-- A specialization without a container. -/
  | lone (item : α)
  /-- A list or a tuple. -/
  | sequence (items : List α)
  /-- A mapping, given by its values in order. -/
  | mapping (values : List α)
  /-- An object of a type that is not understood. -/
  | other (typeName : String)
  deriving DecidableEq, Repr

/-- The three shapes that specializations are brought into. -/
inductive Specializations (α : Type) where
  | empty
  | single (item : α)
  | many (items : List α)
  deriving DecidableEq, Repr

/-- The items of a shape, in order. -/
def Specializations.toList {α : Type} : Specializations α → List α
  | .empty => []
  | .single item => [item]
  | .many items => items

/-- Several items as a shape; no items are no specializations. -/
def Specializations.ofItems {α : Type} : List α → Specializations α
  | [] => .empty
  | item :: items => .many (item :: items)

theorem Specializations.toList_ofItems {α : Type} (items : List α) :
    (Specializations.ofItems items).toList = items := by
  cases items <;> rfl

/-- **The shape of a container.**  The owner is named if the container is refused. -/
def Container.normalize {α : Type} (owner : String) :
    Container α → Except ExplorerError (Specializations α)
  | .missing => .ok .empty
  | .lone item => .ok (.single item)
  | .sequence items => .ok (.ofItems items)
  | .mapping values => .ok (.ofItems values)
  | .other typeName => .error (.shape typeName owner)

/-- The items of a container, in order; `none` if its type is not understood. -/
def Container.items? {α : Type} : Container α → Option (List α)
  | .missing => some []
  | .lone item => some [item]
  | .sequence items => some items
  | .mapping values => some values
  | .other _ => none

/-- The items of a container replaced one by one. -/
def Container.map {α β : Type} (f : α → β) : Container α → Container β
  | .missing => .missing
  | .lone item => .lone (f item)
  | .sequence items => .sequence (items.map f)
  | .mapping values => .mapping (values.map f)
  | .other typeName => .other typeName

/-- The shape holds the items of the container, in order. -/
theorem Container.toList_normalize {α : Type} (owner : String) (c : Container α) :
    (c.normalize owner).toOption.map Specializations.toList = c.items? := by
  cases c with
  | missing => rfl
  | lone item => rfl
  | sequence items => exact congrArg some (Specializations.toList_ofItems items)
  | mapping values => exact congrArg some (Specializations.toList_ofItems values)
  | other typeName => rfl

end JitExplorer
