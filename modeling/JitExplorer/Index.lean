/-
**Places in a list.**

A place counts from the start of a list, or from its end if it is negative.  It has to fit into a
machine word of 64 bits, even if the list is far shorter.

Main definitions:

* `Index.itemAt` — the item at a place, or the reason why there is none.

Main results:

* `Index.itemAt_natCast` — a place that counts from the start.
-/

import JitExplorer.Failure

set_option autoImplicit false

namespace JitExplorer.Index

variable {α : Type}

/-- Why there is no item at a place. -/
inductive Fault where
  /-- The list has no such place. -/
  | outside
  /-- The place does not fit into a machine word. -/
  | oversized
  deriving DecidableEq, Repr

/-- The wording of a fault. -/
def Fault.message : Fault → String
  | .outside => "list index out of range"
  | .oversized => "cannot fit 'int' into an index-sized integer"

/-- A fault as a failure. -/
def Fault.toFailure (fault : Fault) : Failure :=
  .ordinary "IndexError" fault.message

/-- A place fits into a machine word. -/
def isWord (place : Int) : Bool :=
  -9223372036854775808 ≤ place && place < 9223372036854775808

/-- The place counted from the start of a list of the given length. -/
def fromStart (length : Nat) (place : Int) : Int :=
  if place < 0 then place + length else place

/-- **The item at a place,** or the reason why there is none. -/
def itemAt (items : List α) (place : Int) : Except Fault α :=
  if isWord place then
    match fromStart items.length place with
    | .ofNat n =>
        match items[n]? with
        | some item => .ok item
        | none => .error .outside
    | .negSucc _ => .error .outside
  else .error .oversized

theorem fromStart_natCast (length n : Nat) : fromStart length n = .ofNat n := by
  unfold fromStart
  rw [if_neg (by omega)]
  rfl

theorem itemAt_natCast (items : List α) {n : Nat} (h : n < items.length)
    (hw : isWord n = true) : itemAt items n = .ok items[n] := by
  simp [itemAt, hw, fromStart_natCast, h]

end JitExplorer.Index
