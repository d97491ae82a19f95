/-
**Argument lists as one text.**

A header shows the argument types of a specialization joined by a comma and a space.  A type may
itself hold that separator between brackets, so the list is split at the separators outside all
brackets only.  Brackets are counted without regard to their kind.

Main definitions:

* `ArgumentList.depthAfter` — the bracket depth behind a character;
* `ArgumentList.split` — the elements of a list that was joined;
* `Block.argList` — the argument types of a block.
-/

import JitExplorer.Framing

set_option autoImplicit false

namespace JitExplorer

namespace ArgumentList

/-- The bracket depth behind a character, given the depth in front of it. -/
def depthAfter (depth : Int) (c : Char) : Int :=
  if c = '(' || c = '[' || c = '{' then depth + 1
  else if c = ')' || c = ']' || c = '}' then depth - 1
  else depth

/-- The elements of a text, read at a given bracket depth; `skip` says that the next character is
the space of a separator. -/
def splitAt (depth : Int) (skip : Bool) : List Char → List (List Char)
  | [] => []
  | c :: s =>
      if skip then splitAt depth false s
      else if c = ',' && depth = 0 && s.head? == some ' ' then [] :: splitAt depth true s
      else Text.consHead c (splitAt (depthAfter depth c) false s)

/-- The elements of a joined list.  A separator at the very end opens no further element. -/
def split (s : List Char) : List (List Char) :=
  splitAt 0 false s

/-- The elements of a joined list as strings. -/
def splitText (s : String) : List String :=
  (split s.toList).map String.ofList

end ArgumentList

/-- The argument types of a block. -/
def Block.argList (block : Block) : List String :=
  ArgumentList.splitText block.args

end JitExplorer
