/-
**Descriptors of argument types.**

What a compiler keeps for a specialization leads to its signature through any number of wrapper
objects, each of which names the next one.  Following the links ends at a signature, whose argument
types are the answer, or at an object that names no other one, which is refused by its type.  An
object that names itself is refused as well.  Links may also run in a larger circle; then following
them does not end.

Main definitions:

* `Descriptor.Object`, `Descriptor` — objects and their links;
* `Descriptor.chain` — wrappers around an object;
* `Descriptor.follow` — the answer after a limited number of steps;
* `Descriptor.argTypes` — the argument types of a descriptor.

Main results:

* `Descriptor.follow_mono` — more steps keep an answer.
-/

import JitExplorer.Failure

set_option autoImplicit false

namespace JitExplorer

/-- An object on the way to a signature. -/
inductive Descriptor.Object where
  /-- A signature with its argument types. -/
  | signature (argTypes : List String)
  /-- An object of the named type, with the place of the object that it names. -/
  | holder (typeName : String) (link : Option Nat)
  deriving DecidableEq, Repr

/-- Objects by their places, of which the first one is where following starts. -/
structure Descriptor where
  first : Descriptor.Object
  others : List Descriptor.Object := []
  deriving DecidableEq, Repr

namespace Descriptor

/-- The objects of a descriptor by their places. -/
def objects (d : Descriptor) : List Object :=
  d.first :: d.others

/-- What an object is refused for. -/
def refusal (typeName : String) : ExplorerError :=
  .shape typeName "argument types"

/-- The answer that an object at a given place leads to within `fuel` steps, if there is one. -/
def follow (objects : List Object) :
    Nat → Nat → Object → Option (Except ExplorerError (List String))
  | 0, _, _ => none
  | _ + 1, _, .signature argTypes => some (.ok argTypes)
  | _ + 1, _, .holder typeName none => some (.error (refusal typeName))
  | fuel + 1, place, .holder typeName (some next) =>
      if next = place then some (.error (refusal typeName))
      else
        match objects[next]? with
        | none => some (.error (refusal typeName))
        | some object => follow objects fuel next object

/-- More steps keep an answer. -/
theorem follow_mono (objects : List Object) (fuel extra place : Nat) (object : Object)
    (answer : Except ExplorerError (List String))
    (h : follow objects fuel place object = some answer) :
    follow objects (fuel + extra) place object = some answer := by
  induction fuel generalizing place object with
  | zero => simp [follow] at h
  | succ fuel ih =>
      rw [Nat.add_right_comm]
      cases object with
      | signature argTypes => simpa [follow] using h
      | holder typeName link =>
          cases link with
          | none => simpa [follow] using h
          | some next =>
              simp only [follow] at h ⊢
              split
              · rename_i hn
                simpa [hn] using h
              · rename_i hn
                rw [if_neg hn] at h
                cases ho : objects[next]? with
                | none => simpa [ho] using h
                | some o =>
                    simp only [ho] at h ⊢
                    exact ih next o h

/-- **The argument types of a descriptor.**  As many steps as there are objects see every object
that can be reached, so a descriptor that has not answered by then never does. -/
def argTypes (d : Descriptor) : Except Failure (List String) :=
  match follow d.objects d.objects.length 0 d.first with
  | some (.ok argTypes) => .ok argTypes
  | some (.error error) => .error (.explorer error)
  | none => .error .endless

/-- Wrappers that each name the next place, `count` of them, starting at a given place. -/
def wrappers (typeName : String) (place : Nat) : Nat → List Object
  | 0 => []
  | count + 1 => .holder typeName (some (place + 1)) :: wrappers typeName (place + 1) count

/-- `count` wrappers around an object; the object is told its place. -/
def chain (typeName : String) (count : Nat) (last : Nat → Object) : Descriptor :=
  match wrappers typeName 0 count with
  | [] => { first := last 0 }
  | first :: others => { first, others := others ++ [last count] }

end Descriptor

end JitExplorer
