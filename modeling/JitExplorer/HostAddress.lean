/-
**Host addresses.**

A host may be named by an address.  An address of version 4 is four numbers below 256 between
points; a number has no leading zeros.  An address of version 6 is eight groups of up to four
hexadecimal digits between colons.  The last two groups may be written as an address of version 4,
and one run of groups that are zero may be left out: two colons stand in its place.  A zone may
follow behind a percent sign.  An address of a later version names that version behind a letter.

Main definitions:

* `HostAddress.isVersion4`, `HostAddress.isVersion6`, `HostAddress.isLater` — the texts that write
  an address of some version;
* `HostAddress.groupCount?` — how many groups a part of an address stands for.
-/

import JitExplorer.Text.Digit
import JitExplorer.Text.Lines
import JitExplorer.Text.Percent

set_option autoImplicit false

namespace JitExplorer.HostAddress

/-! ### Version 4 -/

/-- A number of an address of version 4. -/
def isOctet (s : List Char) : Bool :=
  !s.isEmpty && s.length ≤ 3 && s.all Char.isDigit && (s == ['0'] || s.head? != some '0') &&
    decide (Text.numeralValue s < 256)

/-- A text writes an address of version 4. -/
def isVersion4 (s : List Char) : Bool :=
  let numbers := Text.parts '.' s
  numbers.length == 4 && numbers.all isOctet

/-! ### Version 6 -/

/-- A hexadecimal digit of either case. -/
def isHexDigit (c : Char) : Bool :=
  (Text.Percent.hexValue? c).isSome

/-- A group of an address of version 6. -/
def isGroup (s : List Char) : Bool :=
  !s.isEmpty && s.length ≤ 4 && s.all isHexDigit

/-- The number of groups that texts between colons stand for, if they stand for groups.  The last
one may be an address of version 4, if that is allowed, and stands for two then. -/
def groupCount? (mixed : Bool) : List (List Char) → Option Nat
  | [] => some 0
  | group :: groups =>
      if isGroup group then (groupCount? mixed groups).map (· + 1)
      else if mixed && groups.isEmpty && isVersion4 group then some 2
      else none

/-- The number of groups that a text between gaps stands for; an empty one stands for none. -/
def groupsIn? (mixed : Bool) (s : List Char) : Option Nat :=
  if s.isEmpty then some 0 else groupCount? mixed (Text.parts ':' s)

/-- What stands in front of the first gap and behind it. -/
def cutGap : List Char → Option (List Char × List Char)
  | [] => none
  | c :: s =>
      match c, s with
      | ':', ':' :: rest => some ([], rest)
      | c, s => (cutGap s).map fun halves => (c :: halves.1, halves.2)

/-- A text writes an address of version 6 without a zone.  A gap stands for one group at least. -/
def isPlainVersion6 (s : List Char) : Bool :=
  match cutGap s with
  | none => groupsIn? true s == some 8
  | some (front, back) =>
      match groupsIn? false front, groupsIn? true back with
      | some m, some n => m + n ≤ 7
      | _, _ => false

/-- A text writes an address of version 6, possibly with a zone. -/
def isVersion6 (s : List Char) : Bool :=
  match s.dropWhile (· != '%') with
  | [] => isPlainVersion6 s
  | _ :: zone =>
      !zone.isEmpty && !zone.contains '%' && isPlainVersion6 (s.takeWhile (· != '%'))

/-! ### Later versions -/

/-- The letter that addresses of later versions start with. -/
def versionLetter : Char := 'v'

/-- What stands behind the letter of an address of a later version: the version in hexadecimal
digits, a point, and something more. -/
def isLater (behindLetter : List Char) : Bool :=
  !(behindLetter.takeWhile isHexDigit).isEmpty &&
    match behindLetter.dropWhile isHexDigit with
    | '.' :: rest => !rest.isEmpty
    | _ => false

end JitExplorer.HostAddress
