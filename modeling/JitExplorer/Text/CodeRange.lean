/-
**Ranges of characters.**

A property of characters is kept as a list of closed ranges of code points.  This module holds the
one look-up that all such tables share.

Main definitions:

* `Text.inRanges` — a code point lies in one of the ranges.
-/

set_option autoImplicit false

namespace JitExplorer.Text

/-- A code point lies in one of the closed ranges. -/
def inRanges (ranges : List (Nat × Nat)) (n : Nat) : Bool :=
  ranges.any fun r => r.1 ≤ n && n ≤ r.2

end JitExplorer.Text
