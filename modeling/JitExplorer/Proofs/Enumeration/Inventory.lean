/-
**What a toolchain says about a module.**

An inventory says once what a toolchain answers to every question about one module: which names are
bound, which objects are callables, how they are shown, what methods they have, and in which
containers the specializations are kept.  A toolchain follows an inventory if it answers so whenever
it is asked, whatever it was asked before.  A script follows an inventory of its own.

Main definitions:

* `Inventory` — what is answered to each question;
* `Inventory.listed`, `Inventory.found`, `Inventory.lines` — the bindings, the specializations and
  the progress lines that a complete listing of the module consists of;
* `Question`, `Toolchain.after`, `Toolchain.afterAll` — the questions, and the state of a toolchain
  that was asked some of them;
* `Toolchain.Follows` — a toolchain answers as an inventory says;
* `Script.inventory` — what a script says.

Main results:

* `Toolchain.result_answer` — a question fails exactly if the inventory says so;
* `Script.follows_inventory` — **a script follows its inventory.**
-/

import JitExplorer.Enumeration
import JitExplorer.Toolchain.Script

set_option autoImplicit false

namespace JitExplorer

variable {σ : Type}

/-! ### Inventories -/

/-- What a toolchain says about one module. -/
structure Inventory where
  bindings : Except Failure (List (String × Ref))
  isCallable : Ref → Except Failure Bool
  displayName : String → Ref → Except Failure String
  methods : Callable → Except Failure (List Method)
  /-- The container of a method's specializations, in which there may be gaps. -/
  container : Method → Except Failure (Container (Option Ref))
  /-- A method as it is named when its container is refused. -/
  owner : Method → String
  argTypes : Ref → Except Failure (List String)

namespace Inventory

variable (inventory : Inventory)

/-- The items of a method's container, unless it cannot be had or is refused. -/
def items (method : Method) : Except Failure (List (Option Ref)) :=
  match inventory.container method with
  | .error failure => .error failure
  | .ok container =>
      ((container.normalize (inventory.owner method)).map Specializations.toList).mapError .explorer

/-- The bound names with their objects. -/
def names : List (String × Ref) :=
  inventory.bindings.toOption.getD []

/-- A binding is bound to a callable. -/
def bindsCallable (binding : String × Ref) : Bool :=
  (inventory.isCallable binding.2).toOption.getD false

/-- The binding at a place is listed: it is bound to a callable, and no binding in front of it is
bound to the same one. -/
def isListed (names : List (String × Ref)) (place : Nat) (binding : String × Ref) : Bool :=
  inventory.bindsCallable binding &&
    !(names.take place).any fun earlier =>
      inventory.bindsCallable earlier && earlier.2 == binding.2

/-- The bindings that are listed, in order. -/
def listed : List (String × Ref) :=
  (inventory.names.zipIdx.filter fun (binding, place) =>
    inventory.isListed inventory.names place binding).map Prod.fst

/-- The callable of a binding, as it is shown. -/
def callableOf (binding : String × Ref) : Callable where
  name := (inventory.displayName binding.1 binding.2).toOption.getD ""
  object := binding.2

/-- The methods of a callable, in order. -/
def methodsOf (callable : Callable) : List Method :=
  (inventory.methods callable).toOption.getD []

/-- The specializations in a method's container, in order and without the gaps. -/
def objectsOf (method : Method) : List Ref :=
  (((inventory.container method).toOption.bind Container.items?).getD []).filterMap id

/-- The argument types of a specialization. -/
def typesOf (object : Ref) : List String :=
  (inventory.argTypes object).toOption.getD []

/-- The specialization that an object is. -/
def specialization (callable : Callable) (method : Method) (object : Ref) : Specialization where
  callable
  argTypes := inventory.typesOf object
  method
  object

/-- **The specializations of a module:** those of each listed binding, method by method. -/
def found : List Specialization :=
  inventory.listed.flatMap fun binding =>
    (inventory.methodsOf (inventory.callableOf binding)).flatMap fun method =>
      (inventory.objectsOf method).map
        (inventory.specialization (inventory.callableOf binding) method)

/-- **The progress lines of a module:** one for each listed binding, and behind it one for each of
its specializations. -/
def lines : List String :=
  inventory.listed.flatMap fun binding =>
    Enumeration.callableLine (inventory.callableOf binding).name ::
      (inventory.methodsOf (inventory.callableOf binding)).flatMap fun method =>
        (inventory.objectsOf method).map fun object =>
          Enumeration.specializationLine (inventory.typesOf object)

/-- The items of a method's container without the gaps are its specializations. -/
theorem filterMap_of_items_eq_ok {method : Method} {objects : List (Option Ref)}
    (h : inventory.items method = .ok objects) :
    objects.filterMap id = inventory.objectsOf method := by
  unfold items at h
  unfold objectsOf
  cases hcontainer : inventory.container method with
  | error failure => simp [hcontainer] at h
  | ok container =>
      have hitems := container.toList_normalize (inventory.owner method)
      simp only [hcontainer] at h
      cases hshape : container.normalize (inventory.owner method) with
      | error error =>
          rw [hshape] at h
          cases h
      | ok shape =>
          rw [hshape] at hitems h
          cases h
          rw [Except.toOption, Option.bind_some, ← hitems]
          rfl

end Inventory

/-! ### Questions -/

/-- The questions about a module. -/
inductive Question where
  | bindings
  | isCallable (object : Ref)
  | displayName (name : String) (object : Ref)
  | methods (callable : Callable)
  | specializations (method : Method)
  | argTypes (object : Ref)
  deriving DecidableEq, Repr

/-- How a result fails. -/
def failureOf? {α : Type} : Except Failure α → Option Failure
  | .error failure => some failure
  | .ok _ => none

/-- The failure that a question is answered with. -/
def Inventory.failure? (inventory : Inventory) : Question → Option Failure
  | .bindings => failureOf? inventory.bindings
  | .isCallable object => failureOf? (inventory.isCallable object)
  | .displayName name object => failureOf? (inventory.displayName name object)
  | .methods callable => failureOf? (inventory.methods callable)
  | .specializations method => failureOf? (inventory.items method)
  | .argTypes object => failureOf? (inventory.argTypes object)

namespace Toolchain

variable (toolchain : Toolchain σ) (context : Context)

/-- What a toolchain gives back for a question, but for what it answers if it succeeds. -/
def answer : Question → σ → Answer σ Unit
  | .bindings, s => (toolchain.bindings context s).map fun _ => ()
  | .isCallable object, s => (toolchain.isCallable object s).map fun _ => ()
  | .displayName name object, s => (toolchain.displayName name object s).map fun _ => ()
  | .methods callable, s => (toolchain.methods callable context s).map fun _ => ()
  | .specializations method, s => (toolchain.specializations method s).map fun _ => ()
  | .argTypes object, s => (toolchain.argTypes object s).map fun _ => ()

/-- The state of a toolchain that was asked a question. -/
def after (s : σ) (question : Question) : σ :=
  (toolchain.answer context question s).state

/-- The state of a toolchain that was asked some questions, one after another. -/
def afterAll (questions : List Question) (s : σ) : σ :=
  questions.foldl (toolchain.after context) s

/-- In some state, a toolchain answers as an inventory says. -/
structure AnswersAs (inventory : Inventory) (s : σ) : Prop where
  bindings : (toolchain.bindings context s).result = inventory.bindings
  isCallable : ∀ object, (toolchain.isCallable object s).result = inventory.isCallable object
  displayName : ∀ name object,
    (toolchain.displayName name object s).result = inventory.displayName name object
  methods : ∀ callable, (toolchain.methods callable context s).result = inventory.methods callable
  specializations : ∀ method,
    (toolchain.specializations method s).result = inventory.items method
  argTypes : ∀ object, (toolchain.argTypes object s).result = inventory.argTypes object

/-- **A toolchain follows an inventory:** whatever it was asked before, it answers as the inventory
says. -/
def Follows (inventory : Inventory) (s : σ) : Prop :=
  ∀ questions, toolchain.AnswersAs context inventory (toolchain.afterAll context questions s)

variable {toolchain context} {inventory : Inventory} {s : σ}

theorem Follows.answersAs (h : toolchain.Follows context inventory s) :
    toolchain.AnswersAs context inventory s :=
  h []

theorem Follows.after (h : toolchain.Follows context inventory s) (question : Question) :
    toolchain.Follows context inventory (toolchain.after context s question) :=
  fun questions => h (question :: questions)

/-- A toolchain that answers as an inventory says, and goes on to do so, follows it. -/
theorem follows_of_invariant (Good : σ → Prop)
    (hanswers : ∀ s, Good s → toolchain.AnswersAs context inventory s)
    (hafter : ∀ s question, Good s → Good (toolchain.after context s question)) (hs : Good s) :
    toolchain.Follows context inventory s := by
  intro questions
  induction questions generalizing s with
  | nil => exact hanswers s hs
  | cons question questions ih => exact ih (hafter s question hs)

/-- A question fails exactly if the inventory says so. -/
theorem result_answer (h : toolchain.AnswersAs context inventory s) (question : Question) :
    (toolchain.answer context question s).result =
      match inventory.failure? question with
      | none => .ok ()
      | some failure => .error failure := by
  have hresult : ∀ {α : Type} {answer : Answer σ α} {result : Except Failure α},
      answer.result = result → (answer.map fun _ => ()).result =
        match failureOf? result with
        | none => .ok ()
        | some failure => .error failure := by
    rintro α answer result rfl
    unfold Answer.map failureOf?
    cases answer.result <;> rfl
  cases question with
  | bindings => exact hresult h.bindings
  | isCallable object => exact hresult (h.isCallable object)
  | displayName name object => exact hresult (h.displayName name object)
  | methods callable => exact hresult (h.methods callable)
  | specializations method => exact hresult (h.specializations method)
  | argTypes object => exact hresult (h.argTypes object)

end Toolchain

/-! ### The inventory of a script -/

/-- A container of items that are known by their places below an object. -/
def Container.placed {α : Type} (object : Ref) : Container (Option α) → Container (Option Ref)
  | .missing => .missing
  | .lone item => .lone (item.map fun _ => object ++ [0])
  | .sequence items => .sequence (Binding.placed object 0 items)
  | .mapping values => .mapping (Binding.placed object 0 values)
  | .other typeName => .other typeName

/-- It does not matter whether items are placed in a container or in its shape. -/
theorem Container.normalize_placed {α : Type} (owner : String) (object : Ref)
    (container : Container (Option α)) :
    ((container.placed object).normalize owner).map Specializations.toList =
      (container.normalize owner).map fun shape => Binding.placed object 0 shape.toList := by
  cases container with
  | missing => rfl
  | lone item => cases item <;> rfl
  | sequence items =>
      simp only [placed, normalize, Except.map, Specializations.toList_ofItems]
  | mapping values =>
      simp only [placed, normalize, Except.map, Specializations.toList_ofItems]
  | other typeName => rfl

namespace Script

/-- The container of a method's specializations. -/
def container (script : Script) (method : Method) : Container (Option Ref) :=
  match script.definition? method.object with
  | none => .missing
  | some definition => definition.items.placed method.object

/-- What a script says about a module. -/
def inventory (script : Script) (context : Context) : Inventory where
  bindings := (script.listBindings).result
  isCallable object := (script.isCallable object).result
  displayName name object := (script.displayName name object).result
  methods callable := (script.methods callable context).result
  container method := .ok (script.container method)
  owner method := method.callable.name
  argTypes object := (script.argTypes object).result

/-- A script keeps items in its containers, and its inventory says where they are kept. -/
theorem result_specializations (script : Script) (context : Context) (method : Method) :
    (script.specializations method).result = (script.inventory context).items method := by
  change _ = (((script.container method).normalize method.callable.name).map
    Specializations.toList).mapError Failure.explorer
  unfold specializations container
  cases script.definition? method.object with
  | none => rfl
  | some definition =>
      rw [definition.items.normalize_placed method.callable.name method.object]
      dsimp only [Answer.of]
      cases definition.items.normalize method.callable.name <;> rfl

/-- **A script follows its inventory:** what it records does not change what it says. -/
theorem follows_inventory (script : Script) (context : Context) :
    toolchain.Follows context (script.inventory context) script := by
  refine Toolchain.follows_of_invariant (fun s => ∃ calls, s = { script with calls }) ?_ ?_
    ⟨script.calls, rfl⟩
  · rintro _ ⟨calls, rfl⟩
    exact
      { bindings := rfl
        isCallable := fun _ => rfl
        displayName := fun _ _ => rfl
        methods := fun _ => rfl
        specializations := result_specializations { script with calls } context
        argTypes := fun _ => rfl }
  · rintro _ question ⟨calls, rfl⟩
    cases question with
    | bindings => exact ⟨_, rfl⟩
    | isCallable _ | displayName _ _ | methods _ | specializations _ | argTypes _ =>
        exact ⟨calls, rfl⟩

end Script

end JitExplorer
