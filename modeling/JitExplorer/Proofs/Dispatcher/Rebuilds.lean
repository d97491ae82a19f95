/-
**Keeping rebuilds changes nothing but the work.**

A compiler is ordered to give texts of libraries, one after another.  It compiles an overload again
if debug information is wanted that the dispatcher was not told to keep, and it keeps the library
that it gets.  Each text is nevertheless the one that a compiler gives that keeps nothing, as long
as no overload is ordered through two dispatchers.  This rests on one invariant: what is kept for an
overload is what compiling it again gave through the dispatcher of an order before.

An overload is known by its place, but the options come from the dispatcher through which it was
found.  So an overload that is ordered through two dispatchers is shown the second time as it was
compiled for the first one.

Main definitions:

* `Dispatcher.Compiler.Order` — an order for a text of a library;
* `Dispatcher.Compiler.after` — the compiler after some orders;
* `Dispatcher.Compiler.Order.IsDue`, `Dispatcher.Compiler.Order.Effect` — when an overload is
  compiled again for an order, and what an order does to the compiler;
* `Dispatcher.Compiler.Order.Made`, `Dispatcher.Compiler.IsFaithful` — what is kept was made for an
  order before;
* `Dispatcher.Compiler.Order.IsConsistent` — no order before went to the same overload through
  another dispatcher.

Main results:

* `Dispatcher.Compiler.Order.effect_carriedOut` — an order does nothing, or one overload is compiled
  again;
* `Dispatcher.Compiler.isFaithful_after`, `Dispatcher.Compiler.lookup_builds_after` — what is kept
  stays faithful, and is kept for good;
* `Dispatcher.Compiler.IsFaithful.library_forget` — a faithful compiler finds the library that it
  would build;
* `Dispatcher.Compiler.rebuilds_kept_once` — **keeping rebuilds changes nothing but the work;**
* `Dispatcher.Compiler.exists_kept_for_another` — an overload that is shown as it was compiled for
  another dispatcher.
-/

import JitExplorer.Dispatcher.Compiler
import Mathlib.Data.List.Induction

set_option autoImplicit false

namespace JitExplorer.Dispatcher

/-! ### The options of a rebuild -/

namespace Settings

theorem get?_forDebugging_debug (settings : Settings) :
    settings.forDebugging.get? debugName = some (.flag true) := by
  have h : boundsCheckName ≠ debugName := by decide
  rw [forDebugging, get?_setDefault_of_ne _ _ h, Table.get?_set_self]

/-- Bounds checks stay as they were, and are switched off if nothing was said about them. -/
theorem get?_forDebugging_boundsCheck (settings : Settings) :
    settings.forDebugging.get? boundsCheckName =
      some ((settings.get? boundsCheckName).getD (.flag false)) := by
  have h : debugName ≠ boundsCheckName := by decide
  have hold := Table.get?_set_of_ne settings (.flag true) h
  unfold forDebugging setDefault
  cases hget : settings.get? boundsCheckName with
  | some value => simp only [hold, hget, Option.getD_some]
  | none => simp only [hold, hget, Table.get?_set_self, Option.getD_none]

end Settings

namespace Compiler

/-! ### Orders -/

/-- The texts of a library. -/
inductive Part where
  | function
  | module
  | assembly
  deriving DecidableEq, Repr

namespace Part

/-- The stage that shows a text of a library. -/
def stage : Part → Stage
  | function => .llvm
  | module => .llvmModule
  | assembly => .native

/-- A text of a library, if it can be given. -/
def text : Part → Library → Except Failure String
  | function => Library.function
  | module => Library.module
  | assembly => Library.assembly

/-- The filter that takes debug information out of a text. -/
def strip : Part → String → String
  | function => Metadata.stripText
  | module => Metadata.stripText
  | assembly => Assembly.stripText

end Part

/-- An order for a text of the library of a specialization. -/
structure Order where
  part : Part
  specialization : Specialization
  options : StageOptions
  deriving DecidableEq, Repr

/-- The overload that an order is about. -/
def Order.object (order : Order) : Ref :=
  order.specialization.object

/-- The dispatcher that an order goes through. -/
def Order.handle (order : Order) : Ref :=
  order.specialization.method.object.take 1

/-- What the compiler gives back for an order. -/
def Order.emission (order : Order) (compiler : Compiler) : Emission Compiler :=
  emit order.part.stage order.specialization order.options compiler

/-- The compiler after an order. -/
def Order.carriedOut (order : Order) (compiler : Compiler) : Compiler :=
  (order.emission compiler).state

/-- **The compiler after some orders.** -/
def after (orders : List Order) (compiler : Compiler) : Compiler :=
  orders.foldl (fun compiler order => order.carriedOut compiler) compiler

theorem after_append (front back : List Order) (compiler : Compiler) :
    after (front ++ back) compiler = after back (after front compiler) :=
  List.foldl_append

/-- The library that an order is carried out with. -/
def Order.library (order : Order) (compiler : Compiler) : Answer Compiler Library :=
  libraryFor order.specialization order.options compiler

/-- An order is carried out with a library, of which it reads one text. -/
theorem Order.emission_eq (order : Order) (compiler : Compiler) :
    order.emission compiler =
      (libraryText order.specialization order.options order.part.text order.part.strip
        compiler).emission := by
  obtain ⟨part, s, options⟩ := order
  cases part <;> rfl

/-- Reading a text does nothing to the compiler. -/
theorem Order.carriedOut_eq (order : Order) (compiler : Compiler) :
    order.carriedOut compiler = (order.library compiler).state := by
  rw [carriedOut, emission_eq]
  change (libraryText order.specialization order.options _ _ compiler).state = _
  rw [libraryText, Answer.bind]
  unfold library
  split <;> rfl

/-- What is given back depends on how the compiler comes by the library only in what it finds. -/
theorem Order.emission_congr {order : Order} {compiler other : Compiler}
    (h : (order.library compiler).result = (order.library other).result) :
    (order.emission compiler).written = (order.emission other).written ∧
      (order.emission compiler).result = (order.emission other).result := by
  have hresult : ∀ c : Compiler,
      (libraryText order.specialization order.options order.part.text order.part.strip c).result =
        (order.library c).result.bind fun library =>
          (order.part.text library).map (filtered order.part.strip order.options) := by
    intro c
    rw [libraryText, Answer.bind]
    unfold library
    split <;> rename_i hlibrary <;> rw [hlibrary] <;> rfl
  have hsame := (hresult compiler).trans ((congrArg (Except.bind · _) h).trans (hresult other).symm)
  rw [emission_eq, emission_eq]
  unfold Answer.emission
  rw [hsame]
  exact ⟨rfl, rfl⟩

/-! ### What an order does -/

/-- **An overload is compiled again for an order:** debug information is wanted that the dispatcher
was not told to keep, and nothing is kept for the overload yet. -/
structure Order.IsDue (order : Order) (compiler : Compiler) (dispatcher : Dispatcher)
    (result : CompileResult) : Prop where
  wanted : withDebugInfo order.options = true
  handle : compiler.handle? order.specialization = some dispatcher
  overload : compiler.overload? order.object = some (.result result)
  notTold : dispatcher.options.isOn Settings.debugName = false
  notKept : compiler.builds.lookup order.object = none

/-- What compiling an overload again gives through a dispatcher. -/
def Order.rebuilt (order : Order) (dispatcher : Dispatcher) (result : CompileResult) :
    Except Failure Library :=
  result.debugLibrary (recipe order.specialization dispatcher)

/-- What is kept after an overload was compiled again: also its library, if there is one. -/
def keeping (object : Ref) (builds : List (Ref × Library)) :
    Except Failure Library → List (Ref × Library)
  | .ok library => (object, library) :: builds
  | .error _ => builds

/-- **What an order does to the compiler:** nothing, or one overload is compiled again. -/
inductive Order.Effect (order : Order) (compiler : Compiler) : Compiler → Prop where
  | none : Effect order compiler compiler
  | rebuilt {dispatcher : Dispatcher} {result : CompileResult} :
      order.IsDue compiler dispatcher result →
      (order.library compiler).result = order.rebuilt dispatcher result →
      Effect order compiler
        { compiler.record (rebuiltEvent order.specialization dispatcher result) with
          builds := keeping order.object compiler.builds (order.rebuilt dispatcher result) }

theorem overload?_of_resultOf {compiler : Compiler} {s : Specialization} {field : String}
    {result : CompileResult} (h : compiler.resultOf s field = .ok result) :
    compiler.overload? s.object = some (.result result) := by
  unfold resultOf at h
  split at h
  · rename_i hoverload
    cases h
    exact hoverload
  · split at h <;> cases h
  · cases h

/-- A rebuild is one that is kept or impossible, or the library as it is, all of which leave the
compiler alone; or else the overload is compiled again. -/
theorem rebuild_cases (s : Specialization) (compiler : Compiler) :
    (rebuild s compiler).state = compiler ∨
      ∃ dispatcher result, compiler.handle? s = some dispatcher ∧
        compiler.overload? s.object = some (.result result) ∧
        dispatcher.options.isOn Settings.debugName = false ∧
        compiler.builds.lookup s.object = none ∧
        rebuild s compiler = recompile s dispatcher result compiler := by
  cases hkept : compiler.builds.lookup s.object with
  | some library =>
      rw [rebuild_of_built _ _ library hkept]
      exact .inl rfl
  | none =>
      cases hhandle : compiler.handle? s with
      | none =>
          simp only [rebuild, hkept, hhandle]
          exact .inl rfl
      | some dispatcher =>
          cases htold : dispatcher.options.isOn Settings.debugName with
          | true =>
              simp only [rebuild, hkept, hhandle, htold]
              exact .inl rfl
          | false =>
              cases hresult : compiler.resultOf s "signature" with
              | error failure =>
                  simp only [rebuild, hkept, hhandle, htold, hresult]
                  exact .inl rfl
              | ok result =>
                  have hoverload := overload?_of_resultOf hresult
                  refine .inr ⟨dispatcher, result, rfl, hoverload, htold, rfl, ?_⟩
                  simp only [rebuild, hkept, hhandle, htold, hresult]
                  rfl

/-- Compiling again is one effect. -/
theorem Order.IsDue.effect {order : Order} {compiler : Compiler} {dispatcher : Dispatcher}
    {result : CompileResult} (hdue : order.IsDue compiler dispatcher result)
    (hlibrary : order.library compiler =
      recompile order.specialization dispatcher result compiler) :
    order.Effect compiler (order.library compiler).state := by
  have heffect := Effect.rebuilt hdue
  rw [hlibrary, recompile] at heffect ⊢
  unfold Order.rebuilt at heffect
  cases hmade : result.debugLibrary (recipe order.specialization dispatcher) with
  | error failure | ok library =>
      simp only [hmade] at heffect ⊢
      exact heffect trivial

/-- **An order has one of these effects.** -/
theorem Order.effect_carriedOut (order : Order) (compiler : Compiler) :
    order.Effect compiler (order.carriedOut compiler) := by
  rw [carriedOut_eq]
  by_cases hwanted : withDebugInfo order.options = true
  · have hlibrary : order.library compiler = rebuild order.specialization compiler :=
      if_pos hwanted
    obtain hidle | ⟨dispatcher, result, hhandle, hoverload, htold, hkept, hagain⟩ :=
      rebuild_cases order.specialization compiler
    · rw [hlibrary, hidle]
      exact .none
    · exact IsDue.effect ⟨hwanted, hhandle, hoverload, htold, hkept⟩ (hlibrary.trans hagain)
  · have hlibrary : order.library compiler =
        .of compiler ((compiler.resultOf order.specialization "library").map
          CompileResult.library) := if_neg hwanted
    rw [hlibrary]
    exact .none

/-! ### What is kept -/

/-- **A library was made for an order:** through a dispatcher that was not told to keep debug
information, compiling the overload again gives it. -/
def Order.Made (order : Order) (compiler : Compiler) (library : Library) : Prop :=
  ∃ dispatcher result, compiler.handle? order.specialization = some dispatcher ∧
    compiler.overload? order.object = some (.result result) ∧
    dispatcher.options.isOn Settings.debugName = false ∧
    order.rebuilt dispatcher result = .ok library

/-- **What is kept is faithful:** it was made for one of some orders. -/
def IsFaithful (orders : List Order) (compiler : Compiler) : Prop :=
  ∀ object library, compiler.builds.lookup object = some library →
    ∃ first ∈ orders, first.object = object ∧ first.Made compiler library

theorem isFaithful_forget (compiler : Compiler) : compiler.forget.IsFaithful [] := by
  intro object library h
  cases h

section Effect

variable {order : Order} {compiler next : Compiler}

theorem Order.Effect.world (h : order.Effect compiler next) : next.world = compiler.world := by
  cases h <;> rfl

/-- What was made for an order depends on the world alone. -/
theorem Order.Made.of_world {first : Order} {library : Library} (h : first.Made compiler library)
    (hworld : next.world = compiler.world) : first.Made next library := by
  have hdispatcher : ∀ object, next.dispatcher? object = compiler.dispatcher? object :=
    fun object => congrArg (World.dispatcher? · object) hworld
  obtain ⟨dispatcher, result, hhandle, hoverload, htold, hmade⟩ := h
  refine ⟨dispatcher, result, ?_, ?_, htold, hmade⟩
  · exact (hdispatcher _).trans hhandle
  · rw [← hoverload]
    unfold overload?
    split
    · rw [hdispatcher]
    · rfl

/-- An order keeps what is kept faithful. -/
theorem Order.Effect.isFaithful {orders : List Order} (h : order.Effect compiler next)
    (hfaithful : compiler.IsFaithful orders) : next.IsFaithful (orders ++ [order]) := by
  have hworld := h.world
  have hbefore : ∀ object library, compiler.builds.lookup object = some library →
      ∃ first ∈ orders ++ [order], first.object = object ∧ first.Made next library := by
    intro object library hkept
    obtain ⟨first, hfirst, hobject, hmade⟩ := hfaithful object library hkept
    exact ⟨first, List.mem_append_left _ hfirst, hobject, hmade.of_world hworld⟩
  cases h with
  | none => exact hbefore
  | @rebuilt dispatcher result hdue _ =>
      intro object found hfound
      change (keeping order.object compiler.builds _).lookup object = _ at hfound
      cases hmade : order.rebuilt dispatcher result with
      | error failure =>
          rw [hmade, keeping] at hfound
          exact hbefore object found hfound
      | ok library =>
          rw [hmade, keeping, List.lookup_cons] at hfound
          by_cases hobject : object = order.object
          · subst hobject
            obtain rfl : library = found := by simpa using hfound
            have hself : order.Made compiler library :=
              ⟨dispatcher, result, hdue.handle, hdue.overload, hdue.notTold, hmade⟩
            exact ⟨order, List.mem_append_right _ (List.mem_singleton.2 rfl), rfl,
              hself.of_world hworld⟩
          · rw [beq_eq_false_iff_ne.2 hobject] at hfound
            exact hbefore object found hfound

/-- What is kept is kept for good: only what nothing is kept for is added. -/
theorem Order.Effect.lookup_builds (h : order.Effect compiler next) {object : Ref}
    {library : Library} (hkept : compiler.builds.lookup object = some library) :
    next.builds.lookup object = some library := by
  cases h with
  | none => exact hkept
  | @rebuilt dispatcher result hdue _ =>
      change (keeping order.object compiler.builds _).lookup object = _
      cases order.rebuilt dispatcher result with
      | error failure => exact hkept
      | ok library =>
          have hother : object ≠ order.object := by
            rintro rfl
            rw [hdue.notKept] at hkept
            cases hkept
          rwa [keeping, List.lookup_cons, beq_eq_false_iff_ne.2 hother]

end Effect

theorem after_concat (orders : List Order) (order : Order) (compiler : Compiler) :
    after (orders ++ [order]) compiler = order.carriedOut (after orders compiler) :=
  after_append orders [order] compiler

/-- **What is kept after some orders was made for one of them,** if nothing was kept before. -/
theorem isFaithful_after (orders : List Order) (compiler : Compiler) :
    (after orders compiler.forget).IsFaithful orders := by
  -- Orders come in at the end, so the induction takes the last one off.
  induction orders using List.reverseRecOn with
  | nil => exact isFaithful_forget compiler
  | append_singleton orders order ih =>
      rw [after_concat]
      exact (order.effect_carriedOut _).isFaithful ih

theorem world_after (orders : List Order) (compiler : Compiler) :
    (after orders compiler).world = compiler.world := by
  induction orders generalizing compiler with
  | nil => rfl
  | cons order orders ih =>
      exact (ih (order.carriedOut compiler)).trans (order.effect_carriedOut compiler).world

theorem lookup_builds_after {compiler : Compiler} {object : Ref} {library : Library}
    (h : compiler.builds.lookup object = some library) (orders : List Order) :
    (after orders compiler).builds.lookup object = some library := by
  induction orders generalizing compiler with
  | nil => exact h
  | cons order orders ih => exact ih ((order.effect_carriedOut compiler).lookup_builds h)

/-- **An order is consistent with some orders:** none of them went to the same overload through
another dispatcher. -/
def Order.IsConsistent (order : Order) (orders : List Order) : Prop :=
  ∀ first ∈ orders, first.object = order.object → first.handle = order.handle

instance (order : Order) (orders : List Order) : Decidable (order.IsConsistent orders) :=
  inferInstanceAs (Decidable (∀ first ∈ orders, first.object = order.object →
    first.handle = order.handle))

/-- What is made through one dispatcher is made alike. -/
theorem Order.Made.of_handle {first order : Order} {compiler : Compiler} {library : Library}
    (h : first.Made compiler library) (hobject : first.object = order.object)
    (hhandle : first.handle = order.handle) : order.Made compiler library := by
  have hhead : first.specialization.method.object.head? =
      order.specialization.method.object.head? := by
    have htake : ∀ object : Ref, (object.take 1).head? = object.head? := fun object => by
      cases object <;> rfl
    rw [← htake, ← htake order.specialization.method.object]
    exact congrArg List.head? hhandle
  obtain ⟨dispatcher, result, hfound, hoverload, htold, hmade⟩ := h
  refine ⟨dispatcher, result, ?_, hobject ▸ hoverload, htold, ?_⟩
  · rw [← hfound]
    simp only [handle?, dispatcher?, World.dispatcher?, Binding.callable?, hhead]
  · rw [← hmade]
    exact congrArg (fun function => result.debugLibrary
      { function, options := dispatcher.options.forDebugging, locals := dispatcher.locals })
      hhandle.symm

/-- What is made for an order is what a compiler gives that keeps nothing. -/
theorem Order.Made.library_forget {order : Order} {compiler : Compiler} {library : Library}
    (h : order.Made compiler library) (hwanted : withDebugInfo order.options = true) :
    (order.library compiler.forget).result = .ok library := by
  obtain ⟨dispatcher, result, hhandle, hoverload, htold, hmade⟩ := h
  have hfound : compiler.forget.handle? order.specialization = some dispatcher := hhandle
  have hnone : compiler.forget.builds.lookup order.specialization.object = none := rfl
  have hresult : compiler.forget.resultOf order.specialization "signature" = .ok result := by
    have hsame : compiler.forget.overload? order.specialization.object = some (.result result) :=
      hoverload
    rw [resultOf, hsame]
  have hmade : result.debugLibrary (recipe order.specialization dispatcher) = .ok library := hmade
  simp only [Order.library, libraryFor, hwanted, if_true, rebuild, hnone, hfound, htold, hresult,
    recompile, hmade]
  rfl

/-- A library that is not kept is found as if nothing was kept. -/
theorem rebuild_result_forget {s : Specialization} {compiler : Compiler}
    (h : compiler.builds.lookup s.object = none) :
    (rebuild s compiler).result = (rebuild s compiler.forget).result := by
  have hnone : compiler.forget.builds.lookup s.object = none := rfl
  have hhandle : compiler.forget.handle? s = compiler.handle? s := rfl
  have hresult : ∀ field, compiler.forget.resultOf s field = compiler.resultOf s field :=
    fun _ => rfl
  simp only [rebuild, h, hnone, hhandle, hresult]
  cases compiler.handle? s with
  | none => rfl
  | some dispatcher =>
      dsimp only
      split
      · rfl
      · cases compiler.resultOf s "signature" with
        | error failure => rfl
        | ok result =>
            simp only [recompile]
            cases result.debugLibrary (recipe s dispatcher) <;> rfl

/-- **A faithful compiler finds the library that it would build** if it had kept nothing, for orders
that are consistent with those before. -/
theorem IsFaithful.library_forget {orders : List Order} {compiler : Compiler}
    (h : compiler.IsFaithful orders) {order : Order} (hconsistent : order.IsConsistent orders) :
    (order.library compiler).result = (order.library compiler.forget).result := by
  by_cases hwanted : withDebugInfo order.options = true
  · cases hkept : compiler.builds.lookup order.object with
    | none =>
        rw [Order.library, Order.library, libraryFor, libraryFor, if_pos hwanted, if_pos hwanted]
        exact rebuild_result_forget hkept
    | some library =>
        obtain ⟨first, hfirst, hobject, hmade⟩ := h order.object library hkept
        have hown := hmade.of_handle hobject (hconsistent first hfirst hobject)
        rw [hown.library_forget hwanted, Order.library, libraryFor, if_pos hwanted,
          rebuild_of_built _ _ library hkept]
        rfl
  · rw [Order.library, Order.library, libraryFor, libraryFor, if_neg hwanted, if_neg hwanted]
    rfl

/-! ### Compiling again -/

/-- An order has something compiled again: the compiler records it. -/
def Order.Recompiles (order : Order) (compiler : Compiler) : Prop :=
  ∃ name signature options locals, (order.carriedOut compiler).events =
    compiler.events ++ [.rebuilt name signature options locals]

/-- Something is compiled again only if it is due. -/
theorem Order.Recompiles.exists_isDue {order : Order} {compiler : Compiler}
    (h : order.Recompiles compiler) :
    ∃ dispatcher result, order.IsDue compiler dispatcher result ∧
      (order.library compiler).result = order.rebuilt dispatcher result ∧
      (order.carriedOut compiler).builds =
        keeping order.object compiler.builds (order.rebuilt dispatcher result) := by
  obtain ⟨name, signature, options, locals, hevents⟩ := h
  have heffect := order.effect_carriedOut compiler
  generalize order.carriedOut compiler = next at hevents heffect ⊢
  cases heffect with
  | none => simp at hevents
  | @rebuilt dispatcher result hdue hlibrary => exact ⟨dispatcher, result, hdue, hlibrary, rfl⟩

/-- An overload that was compiled again with success is not compiled again. -/
theorem Order.Recompiles.not_again {first second : Order} {compiler : Compiler} {library : Library}
    (h : first.Recompiles compiler) (hok : (first.library compiler).result = .ok library)
    (hobject : second.object = first.object) (middle : List Order) :
    ¬ second.Recompiles (after (first :: middle) compiler) := by
  intro hagain
  obtain ⟨dispatcher, result, -, hlibrary, hkept⟩ := h.exists_isDue
  obtain ⟨_, _, hdue, -⟩ := hagain.exists_isDue
  have hbuilds : (first.carriedOut compiler).builds.lookup first.object = some library := by
    rw [hkept, ← hlibrary, hok, keeping, List.lookup_cons_self]
  have hlater : (after (first :: middle) compiler).builds.lookup second.object = some library :=
    hobject ▸ lookup_builds_after hbuilds middle
  rw [hdue.notKept] at hlater
  cases hlater

/-- The options and locals that an overload is compiled again with: those of its dispatcher, apart
from debug information, which is switched on, and bounds checks, which are switched off if the
dispatcher says nothing about them. -/
structure IsRebuiltWith (dispatcher : Dispatcher) (options locals : Settings) : Prop where
  debug : options.get? Settings.debugName = some (.flag true)
  boundsCheck : options.get? Settings.boundsCheckName =
    some ((dispatcher.options.get? Settings.boundsCheckName).getD (.flag false))
  others : ∀ name, Settings.debugName ≠ name → Settings.boundsCheckName ≠ name →
    options.get? name = dispatcher.options.get? name
  locals : locals = dispatcher.locals

/-- **An order is carried out like new:** it gives what it gives if nothing is kept. -/
structure Order.IsLikeNew (order : Order) (now : Compiler) : Prop where
  /-- The same text is written as if nothing was kept, -/
  written : (order.emission now).written = (order.emission now.forget).written
  /-- and it ends in the same way. -/
  result : (order.emission now).result = (order.emission now.forget).result

/-- **An order is sparing:** it works on the compiler only as far as something has to be compiled
again. -/
structure Order.IsSparing (order : Order) (now : Compiler) : Prop where
  /-- All dispatchers keep their options and locals. -/
  world : (order.carriedOut now).world = now.world
  /-- Nothing is compiled again without need. -/
  idle : withDebugInfo order.options = false ∨
    (∀ dispatcher, now.handle? order.specialization = some dispatcher →
      dispatcher.options.isOn Settings.debugName = true) →
      order.carriedOut now = now
  /-- What cannot be compiled again changes nothing that is kept. -/
  failed : ∀ failure, order.Recompiles now → (order.library now).result = .error failure →
    (order.carriedOut now).builds = now.builds
  /-- At most the overload of the order is compiled again, with the options of the dispatcher that
  the order goes through. -/
  work : (order.carriedOut now).events = now.events ∨
    ∃ dispatcher result options locals, now.handle? order.specialization = some dispatcher ∧
      now.overload? order.object = some (.result result) ∧
      (order.carriedOut now).events =
        now.events ++ [.rebuilt dispatcher.name result.signature options locals] ∧
      IsRebuiltWith dispatcher options locals

/-- A faithful compiler carries out like new what is consistent with the orders before. -/
theorem IsFaithful.isLikeNew {orders : List Order} {now : Compiler} (h : now.IsFaithful orders)
    {order : Order} (hconsistent : order.IsConsistent orders) : order.IsLikeNew now where
  written := (Order.emission_congr (h.library_forget hconsistent)).1
  result := (Order.emission_congr (h.library_forget hconsistent)).2

/-- Every order is sparing. -/
theorem Order.isSparing (order : Order) (now : Compiler) : order.IsSparing now where
  world := (order.effect_carriedOut now).world
  idle hidle := by
    have heffect := order.effect_carriedOut now
    generalize order.carriedOut now = next at heffect ⊢
    cases heffect with
    | none => rfl
    | rebuilt hdue =>
        rcases hidle with hunwanted | htold
        · rw [hdue.wanted] at hunwanted
          cases hunwanted
        · have hon := htold _ hdue.handle
          rw [hdue.notTold] at hon
          cases hon
  failed failure hrecompiles hfails := by
    obtain ⟨dispatcher, result, -, hlibrary, hkept⟩ := hrecompiles.exists_isDue
    rw [hkept, ← hlibrary, hfails, keeping]
  work := by
    have heffect := order.effect_carriedOut now
    generalize order.carriedOut now = next at heffect ⊢
    cases heffect with
    | none => exact .inl rfl
    | @rebuilt dispatcher result hdue _ =>
        refine .inr ⟨dispatcher, result, _, _, hdue.handle, hdue.overload, rfl, ?_⟩
        exact
          { debug := Settings.get?_forDebugging_debug _
            boundsCheck := Settings.get?_forDebugging_boundsCheck _
            others := fun _ => Settings.get?_forDebugging_of_ne _
            locals := rfl }

/-- **Keeping rebuilds changes nothing but the work.**  A compiler that has kept nothing at first
carries out an order like new, whatever orders came before, if none of them went to the same
overload through another dispatcher.  Every order is sparing; all dispatchers keep their options and
locals; and no overload is compiled again once that has succeeded. -/
theorem rebuilds_kept_once (compiler : Compiler) (orders : List Order) :
    (∀ order : Order, order.IsConsistent orders →
      order.IsLikeNew (after orders compiler.forget)) ∧
    (∀ order : Order, order.IsSparing (after orders compiler.forget)) ∧
    (after orders compiler.forget).world = compiler.world ∧
    ∀ (first second : Order) (middle : List Order) (library : Library),
      second.object = first.object →
      first.Recompiles (after orders compiler.forget) →
        (first.library (after orders compiler.forget)).result = .ok library →
          ¬ second.Recompiles (after (orders ++ first :: middle) compiler.forget) := by
  refine ⟨?_, fun order => order.isSparing _, world_after orders compiler.forget, ?_⟩
  · intro order hconsistent
    exact (isFaithful_after orders compiler).isLikeNew hconsistent
  · intro first second middle library hobject hfirst hok
    rw [after_append]
    exact hfirst.not_again hok hobject middle

/-- A library with one text throughout. -/
def uniformLibrary (text : String) : Library :=
  ⟨.ok text, .ok text, .ok text⟩

/-- An overload for an integer. -/
def intOverload (debugLibrary : Recipe → Except Failure Library) : Option Overload :=
  some (.result {
    argTypes := ["int32"]
    returnType := "int32"
    typing := none
    library := uniformLibrary "; plain"
    typesText := .ok ""
    debugLibrary })

/-- A dispatcher with two overloads, of which the second one cannot be compiled again. -/
def twoOverloads : Compiler where
  world := { bindings := [("f", .callable {
    name := "f"
    listing := .available ["def f(x):\n"] 4
    overloads := .mapping [intOverload fun _ => .ok (uniformLibrary "; debug"),
      intOverload fun _ => .error (.ordinary "LoweringError" "no debug")]
    options := ⟨[("nopython", .flag true)]⟩
    locals := ⟨[("x", .text "int32")]⟩ })] }

/-- An order with debug information for an overload of the first dispatcher, through the dispatcher
at a given place. -/
def debugOrder (part : Part) (handle place : Nat) : Order where
  part := part
  specialization := ⟨⟨"f", [handle]⟩, ["int32"], ⟨⟨"f", [handle]⟩, 4, [handle, 0]⟩, [0, 0, place]⟩
  options := {}

/-- The first overload is compiled again, with the options of its dispatcher.  Behind an order that
fails it is only read, and shows what it shows if nothing is kept. -/
theorem rebuilds_kept_once_twoOverloads :
    ((debugOrder .module 0 0).carriedOut (after [] twoOverloads.forget)).events =
      (after [] twoOverloads.forget).events ++
        [.rebuilt "f" "(int32,) -> int32"
          ⟨[("nopython", .flag true), ("debug", .flag true), ("boundscheck", .flag false)]⟩
          ⟨[("x", .text "int32")]⟩] ∧
    ¬ (debugOrder .assembly 0 0).Recompiles
      (after [debugOrder .module 0 0, debugOrder .function 0 1] twoOverloads.forget) ∧
    (debugOrder .assembly 0 0).IsLikeNew
      (after [debugOrder .module 0 0, debugOrder .function 0 1] twoOverloads.forget) ∧
    ((debugOrder .assembly 0 0).emission
      (after [debugOrder .module 0 0, debugOrder .function 0 1] twoOverloads.forget)).written =
        ["; debug"] := by
  have hevents : ((debugOrder .module 0 0).carriedOut (after [] twoOverloads.forget)).events =
      (after [] twoOverloads.forget).events ++
        [.rebuilt "f" "(int32,) -> int32"
          ⟨[("nopython", .flag true), ("debug", .flag true), ("boundscheck", .flag false)]⟩
          ⟨[("x", .text "int32")]⟩] := rfl
  have hconsistent : (debugOrder .assembly 0 0).IsConsistent
      [debugOrder .module 0 0, debugOrder .function 0 1] := by decide
  obtain ⟨-, -, -, honce⟩ := rebuilds_kept_once twoOverloads []
  obtain ⟨hnew, -⟩ :=
    rebuilds_kept_once twoOverloads [debugOrder .module 0 0, debugOrder .function 0 1]
  refine ⟨hevents, ?_, hnew _ hconsistent, rfl⟩
  exact honce (debugOrder .module 0 0) (debugOrder .assembly 0 0) [debugOrder .function 0 1] _ rfl
    ⟨_, _, _, _, hevents⟩ rfl

/-- Two dispatchers of which the second one trades exactness for speed, with an overload of the
first one. -/
def twoDispatchers : Compiler where
  world := { bindings := [("f", .callable {
      name := "f"
      listing := .available ["def f(x):\n"] 4
      overloads := .mapping [intOverload fun recipe =>
        .ok (uniformLibrary
          (if recipe.options.isOn "fastmath" then "; debug, fast" else "; debug"))] }),
    ("g", .callable {
      name := "g"
      listing := .available ["def g(x):\n"] 8
      options := ⟨[("fastmath", .flag true)]⟩ })] }

/-- The overload is ordered through the first dispatcher and then through the second one.  The
second time it is shown as it was compiled for the first one, which is not what a compiler shows
that keeps nothing. -/
theorem exists_kept_for_another :
    ∃ (compiler : Compiler) (first second : Order), second.object = first.object ∧
      (second.emission (after [first] compiler.forget)).written = ["; debug"] ∧
      (second.emission (after [first] compiler.forget).forget).written = ["; debug, fast"] ∧
      ¬ second.IsLikeNew (after [first] compiler.forget) := by
  have hkept : ((debugOrder .module 1 0).emission
      (after [debugOrder .module 0 0] twoDispatchers.forget)).written = ["; debug"] := rfl
  have hnew : ((debugOrder .module 1 0).emission
      (after [debugOrder .module 0 0] twoDispatchers.forget).forget).written =
        ["; debug, fast"] := rfl
  refine ⟨twoDispatchers, debugOrder .module 0 0, debugOrder .module 1 0, rfl, hkept, hnew, ?_⟩
  intro hlike
  have hsame := hlike.written
  rw [hkept, hnew] at hsame
  revert hsame
  decide

end Compiler

end JitExplorer.Dispatcher
