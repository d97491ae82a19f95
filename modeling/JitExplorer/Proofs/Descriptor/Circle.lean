/-
**Following links ends, or runs in a circle.**

An object either answers by itself — a signature by its argument types, a holder that names nothing
or itself by being refused — or leads on to exactly one other object.  So following the links from
an object ends at one answer, however many wrappers there are, unless the links run in a circle of
several objects: the guard against an object that names itself does not see a larger circle.  Since
there are finitely many objects, as many steps as there are objects tell the two cases apart.

Main definitions:

* `Descriptor.Answers`, `Descriptor.Leads` — what an object answers, and where it leads;
* `Descriptor.LeadsTo` — the answer at the end of the links;
* `Descriptor.Circles` — the links run in a circle.

Main results:

* `Descriptor.leadsTo_of_follow` — what following finds is the answer at the end of the links;
* `Descriptor.Circles.follow_eq_none` — in a circle, no number of steps finds an answer;
* `Descriptor.circles_of_follow_eq_none` — whatever takes as many steps as there are objects runs in
  a circle;
* `Descriptor.argTypes_eq_iff_leadsTo` — **following ends exactly without a circle.**
-/

import JitExplorer.Descriptor
import Mathlib.Data.List.Chain
import Mathlib.Data.List.Duplicate
import Mathlib.Data.List.Perm.Subperm
import Mathlib.Logic.Relation

set_option autoImplicit false

namespace JitExplorer.Descriptor

/-! ### Objects that answer, and objects that lead on -/

/-- **What an object answers by itself.** -/
inductive Answers (objects : List Object) (place : Nat) :
    Except ExplorerError (List String) → Prop where
  /-- A signature answers by its argument types. -/
  | signature {argTypes : List String} (h : objects[place]? = some (.signature argTypes)) :
      Answers objects place (.ok argTypes)
  /-- A holder that names nothing, or itself, is refused by its type. -/
  | refused {typeName : String} {link : Option Nat}
      (h : objects[place]? = some (.holder typeName link))
      (hlink : ∀ next ∈ link, next = place ∨ objects[next]? = none) :
      Answers objects place (.error (refusal typeName))

/-- **An object leads on to another one:** it is a holder that names it. -/
def Leads (objects : List Object) (place next : Nat) : Prop :=
  next ≠ place ∧ next < objects.length ∧
    ∃ typeName, objects[place]? = some (.holder typeName (some next))

/-- The links from an object end at one with a given answer. -/
def LeadsTo (objects : List Object) (place : Nat) (answer : Except ExplorerError (List String)) :
    Prop :=
  ∃ last, Relation.ReflTransGen (Leads objects) place last ∧ Answers objects last answer

/-- **The links from an object run in a circle:** some object that they reach is reached from
itself again. -/
def Circles (objects : List Object) (place : Nat) : Prop :=
  ∃ entry, Relation.ReflTransGen (Leads objects) place entry ∧
    Relation.TransGen (Leads objects) entry entry

section Steps

variable {objects : List Object} {place next : Nat} {object : Object}
  {answer other : Except ExplorerError (List String)}

theorem Leads.exists_object (h : Leads objects place next) :
    ∃ nextObject, objects[next]? = some nextObject :=
  ⟨_, List.getElem?_eq_getElem h.2.1⟩

/-- Every object answers or leads on. -/
theorem exists_answers_or_leads (h : place < objects.length) :
    (∃ answer, Answers objects place answer) ∨ ∃ next, Leads objects place next := by
  obtain ⟨object, hobject⟩ : ∃ object, objects[place]? = some object :=
    ⟨_, List.getElem?_eq_getElem h⟩
  cases object with
  | signature argTypes => exact .inl ⟨_, .signature hobject⟩
  | holder typeName link =>
      by_cases hlink : ∀ next ∈ link, next = place ∨ objects[next]? = none
      · exact .inl ⟨_, .refused hobject hlink⟩
      · push Not at hlink
        obtain ⟨next, rfl, hne, hnext⟩ := hlink
        exact .inr ⟨next, hne, by simpa using hnext, typeName, hobject⟩

theorem follow_of_answers (h : Answers objects place answer) (hobject : objects[place]? = some object)
    (fuel : Nat) : follow objects (fuel + 1) place object = some answer := by
  cases h with
  | signature h =>
      cases hobject.symm.trans h
      rfl
  | @refused typeName link h hlink =>
      cases hobject.symm.trans h
      cases link with
      | none => rfl
      | some next =>
          rw [follow]
          rcases hlink next rfl with rfl | hnone
          · rw [if_pos rfl]
          · rw [hnone, ite_self]

theorem follow_of_leads {nextObject : Object} (h : Leads objects place next)
    (hobject : objects[place]? = some object) (hnext : objects[next]? = some nextObject)
    (fuel : Nat) :
    follow objects (fuel + 1) place object = follow objects fuel next nextObject := by
  obtain ⟨hne, -, typeName, hplace⟩ := h
  cases hobject.symm.trans hplace
  rw [follow, if_neg hne, hnext]

/-! ### The end of the links -/

/-- **What following finds is the answer at the end of the links.** -/
theorem leadsTo_of_follow {fuel : Nat} (hobject : objects[place]? = some object)
    (h : follow objects fuel place object = some answer) : LeadsTo objects place answer := by
  induction fuel generalizing place object with
  | zero => cases h
  | succ fuel ih =>
      have hlt : place < objects.length := (List.getElem?_eq_some_iff.1 hobject).1
      rcases exists_answers_or_leads hlt with ⟨own, hown⟩ | ⟨next, hleads⟩
      · rw [follow_of_answers hown hobject] at h
        cases h
        exact ⟨place, .refl, hown⟩
      · obtain ⟨nextObject, hnext⟩ := hleads.exists_object
        rw [follow_of_leads hleads hobject hnext] at h
        obtain ⟨last, hreach, hlast⟩ := ih hnext h
        exact ⟨last, .head hleads hreach, hlast⟩

/-- The answer at the end of the links is found within some number of steps. -/
theorem LeadsTo.exists_follow (h : LeadsTo objects place answer)
    (hobject : objects[place]? = some object) :
    ∃ fuel, follow objects fuel place object = some answer := by
  obtain ⟨last, hreach, hlast⟩ := h
  induction hreach using Relation.ReflTransGen.head_induction_on generalizing object with
  | refl => exact ⟨1, follow_of_answers hlast hobject 0⟩
  | @head place next hleads hreach ih =>
      obtain ⟨nextObject, hnext⟩ := hleads.exists_object
      obtain ⟨fuel, hfuel⟩ := ih hnext
      exact ⟨fuel + 1, (follow_of_leads hleads hobject hnext fuel).trans hfuel⟩

/-- Two numbers of steps do not find different answers. -/
theorem follow_unique {fuel fuel' : Nat} (h : follow objects fuel place object = some answer)
    (h' : follow objects fuel' place object = some other) : answer = other := by
  have hsum := follow_mono objects fuel fuel' place object answer h
  have hsum' := follow_mono objects fuel' fuel place object other h'
  rw [Nat.add_comm, hsum] at hsum'
  exact Option.some.inj hsum'

/-! ### Circles -/

/-- A circle is never left. -/
theorem Circles.exists_leads (h : Circles objects place) :
    ∃ next, Leads objects place next ∧ Circles objects next := by
  obtain ⟨entry, hreach, hcircle⟩ := h
  rcases hreach.cases_head with rfl | ⟨next, hleads, hreach⟩
  · obtain ⟨next, hleads, hback⟩ := Relation.TransGen.head'_iff.1 hcircle
    exact ⟨next, hleads, place, hback, hcircle⟩
  · exact ⟨next, hleads, entry, hreach, hcircle⟩

/-- **In a circle, no number of steps finds an answer.** -/
theorem Circles.follow_eq_none (h : Circles objects place) (hobject : objects[place]? = some object)
    (fuel : Nat) : follow objects fuel place object = none := by
  induction fuel generalizing place object with
  | zero => rfl
  | succ fuel ih =>
      obtain ⟨next, hleads, hnext⟩ := h.exists_leads
      obtain ⟨nextObject, hnextObject⟩ := hleads.exists_object
      rw [follow_of_leads hleads hobject hnextObject, ih hnext hnextObject]

/-- Steps without an answer pass through as many further objects. -/
theorem exists_path_of_follow_eq_none {fuel : Nat} (hobject : objects[place]? = some object)
    (h : follow objects fuel place object = none) :
    ∃ path : List Nat, path.length = fuel ∧ (place :: path).IsChain (Leads objects) := by
  induction fuel generalizing place object with
  | zero => exact ⟨[], rfl, .singleton place⟩
  | succ fuel ih =>
      have hlt : place < objects.length := (List.getElem?_eq_some_iff.1 hobject).1
      rcases exists_answers_or_leads hlt with ⟨own, hown⟩ | ⟨next, hleads⟩
      · rw [follow_of_answers hown hobject] at h
        cases h
      · obtain ⟨nextObject, hnext⟩ := hleads.exists_object
        rw [follow_of_leads hleads hobject hnext] at h
        obtain ⟨path, hlength, hchain⟩ := ih hnext h
        exact ⟨next :: path, by rw [List.length_cons, hlength], hchain.cons_cons hleads⟩

/-- A path over more places than there are objects visits one of them twice. -/
theorem circles_of_isChain {path : List Nat} (hlt : place < objects.length)
    (hchain : (place :: path).IsChain (Leads objects)) (hlength : objects.length ≤ path.length) :
    Circles objects place := by
  have hpairwise : (place :: path).Pairwise (Relation.TransGen (Leads objects)) :=
    List.isChain_iff_pairwise.1 (hchain.imp fun _ _ => Relation.TransGen.single)
  have hplaces : ∀ p ∈ path, Relation.TransGen (Leads objects) place p :=
    (List.pairwise_cons.1 hpairwise).1
  have hsubset : place :: path ⊆ List.range objects.length := by
    intro p hp
    rw [List.mem_range]
    rcases List.mem_cons.1 hp with rfl | hp
    · exact hlt
    · obtain ⟨_, _, hleads⟩ := Relation.TransGen.tail'_iff.1 (hplaces p hp)
      exact hleads.2.1
  have hrepeated : ¬ (place :: path).Nodup := by
    intro hnodup
    have hle := (List.subperm_of_subset hnodup hsubset).length_le
    rw [List.length_cons, List.length_range] at hle
    omega
  obtain ⟨entry, htwice⟩ := List.exists_duplicate_iff_not_nodup.2 hrepeated
  refine ⟨entry, ?_, ?_⟩
  · rcases List.mem_cons.1 htwice.mem with rfl | hentry
    · exact .refl
    · exact (hplaces entry hentry).to_reflTransGen
  · exact List.pairwise_pair.1 (hpairwise.sublist (List.duplicate_iff_sublist.1 htwice))

/-- **What takes as many steps as there are objects runs in a circle.** -/
theorem circles_of_follow_eq_none (hobject : objects[place]? = some object)
    (h : follow objects objects.length place object = none) : Circles objects place := by
  obtain ⟨path, hlength, hchain⟩ := exists_path_of_follow_eq_none hobject h
  exact circles_of_isChain (List.getElem?_eq_some_iff.1 hobject).1 hchain hlength.ge

/-- As many steps as there are objects find the answer, if there is one. -/
theorem follow_length_eq_some_iff (hobject : objects[place]? = some object) :
    follow objects objects.length place object = some answer ↔ LeadsTo objects place answer := by
  refine ⟨leadsTo_of_follow hobject, fun h => ?_⟩
  obtain ⟨fuel, hfuel⟩ := h.exists_follow hobject
  cases hlength : follow objects objects.length place object with
  | some found => rw [follow_unique hlength hfuel]
  | none =>
      rw [(circles_of_follow_eq_none hobject hlength).follow_eq_none hobject] at hfuel
      cases hfuel

theorem follow_length_eq_none_iff (hobject : objects[place]? = some object) :
    follow objects objects.length place object = none ↔ Circles objects place :=
  ⟨circles_of_follow_eq_none hobject, fun h => h.follow_eq_none hobject _⟩

end Steps

/-! ### Argument types -/

theorem objects_zero (d : Descriptor) : d.objects[0]? = some d.first := rfl

theorem argTypes_eq_iff (d : Descriptor) (answer : Except ExplorerError (List String)) :
    d.argTypes = answer.mapError .explorer ↔
      follow d.objects d.objects.length 0 d.first = some answer := by
  rw [argTypes]
  rcases follow d.objects d.objects.length 0 d.first with _ | _ | _ <;> rcases answer with _ | _ <;>
    simp [Except.mapError, Failure.endless]

theorem argTypes_eq_endless_iff (d : Descriptor) :
    d.argTypes = .error .endless ↔ follow d.objects d.objects.length 0 d.first = none := by
  rw [argTypes]
  rcases follow d.objects d.objects.length 0 d.first with _ | _ | _ <;> simp [Failure.endless]

/-- **Following ends exactly without a circle.**  The argument types of a descriptor are those of
the signature that the links end at, or it is refused by the type of the object that they end at;
and the links do end, unless they run in a circle, where no number of steps finds an answer. -/
theorem argTypes_eq_iff_leadsTo (d : Descriptor) :
    (∀ answer, d.argTypes = answer.mapError .explorer ↔ LeadsTo d.objects 0 answer) ∧
      ((∃ answer, LeadsTo d.objects 0 answer) ↔ ¬ Circles d.objects 0) ∧
      (d.argTypes = .error .endless ↔ Circles d.objects 0) ∧
      (Circles d.objects 0 ↔ ∀ steps, follow d.objects steps 0 d.first = none) := by
  have hfirst := objects_zero d
  refine ⟨fun answer => ?_, ?_, ?_, ?_⟩
  · rw [argTypes_eq_iff, follow_length_eq_some_iff hfirst]
  · rw [← follow_length_eq_none_iff hfirst, ← ne_eq, Option.ne_none_iff_exists']
    exact exists_congr fun answer => (follow_length_eq_some_iff hfirst).symm
  · rw [argTypes_eq_endless_iff, follow_length_eq_none_iff hfirst]
  · exact ⟨fun h => h.follow_eq_none hfirst, fun h => circles_of_follow_eq_none hfirst (h _)⟩

/-- Two holders that name each other. -/
def pair : Descriptor where
  first := .holder "Wrapper" (some 1)
  others := [.holder "Wrapper" (some 0)]

/-- Two holders that name each other are followed for ever. -/
theorem exists_endless_pair :
    ∃ d : Descriptor, d.argTypes = .error .endless ∧
      (∀ steps, follow d.objects steps 0 d.first = none) ∧
      ¬ ∃ answer, LeadsTo d.objects 0 answer := by
  have hforth : Leads pair.objects 0 1 := ⟨by decide, by decide, _, rfl⟩
  have hback : Leads pair.objects 1 0 := ⟨by decide, by decide, _, rfl⟩
  have hcircle : Circles pair.objects 0 := ⟨0, .refl, .tail (.single hforth) hback⟩
  refine ⟨pair, rfl, hcircle.follow_eq_none rfl, ?_⟩
  rintro ⟨answer, hanswer⟩
  obtain ⟨fuel, hfuel⟩ := hanswer.exists_follow rfl
  rw [hcircle.follow_eq_none rfl] at hfuel
  cases hfuel

end JitExplorer.Descriptor
