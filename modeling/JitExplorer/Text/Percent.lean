/-
**Percent escapes.**

An escape is a percent sign and two hexadecimal digits; it stands for a byte.  The ASCII characters
of a text are read run by run: the bytes of a run, with its escapes resolved, are read as UTF-8, and
what is no UTF-8 is replaced.  All other characters stand for themselves.  A percent sign that
starts no escape stands for itself, too.

Main definitions:

* `Text.Percent.bytes` — the bytes of a run of ASCII characters;
* `Text.Percent.decode` — a text with its escapes resolved.

Main results:

* `Text.Percent.decode_of_ascii` — an ASCII text is one run;
* `Text.Percent.bytes_escape` — an escape stands for its byte.
-/

import JitExplorer.Text.Utf8

set_option autoImplicit false

namespace JitExplorer.Text.Percent

/-- The value of a hexadecimal digit of either case. -/
def hexValue? (c : Char) : Option Nat :=
  if '0' ≤ c && c ≤ '9' then some (c.toNat - 0x30)
  else if 'a' ≤ c && c ≤ 'f' then some (c.toNat - 0x61 + 10)
  else if 'A' ≤ c && c ≤ 'F' then some (c.toNat - 0x41 + 10)
  else none

/-- The byte that two hexadecimal digits write. -/
def byte? (a b : Char) : Option Nat :=
  match hexValue? a, hexValue? b with
  | some x, some y => some (x * 16 + y)
  | _, _ => none

/-- The bytes of a run of ASCII characters, with its escapes resolved. -/
def bytes : List Char → List Nat
  | [] => []
  | '%' :: a :: b :: s =>
      match byte? a b with
      | some n => n :: bytes s
      | none => '%'.toNat :: bytes (a :: b :: s)
  | c :: s => c.toNat :: bytes s

/-- A run of ASCII characters with its escapes resolved. -/
def decodeRun (run : List Char) : List Char :=
  Utf8.decodeLossy (bytes run)

/-- A character is an ASCII character. -/
def isAscii (c : Char) : Bool :=
  c.toNat < 0x80

/-- A text with its escapes resolved, behind a run of ASCII characters that is given backwards. -/
def decodeBehind (run : List Char) : List Char → List Char
  | [] => decodeRun run.reverse
  | c :: s =>
      if isAscii c then decodeBehind (c :: run) s
      else decodeRun run.reverse ++ c :: decodeBehind [] s

/-- **A text with its escapes resolved.** -/
def decode (s : List Char) : List Char :=
  decodeBehind [] s

/-- A text with its escapes resolved, as a string. -/
def decodeText (s : String) : String :=
  String.ofList (decode s.toList)

theorem bytes_escape {a b : Char} {n : Nat} (s : List Char) (h : byte? a b = some n) :
    bytes ('%' :: a :: b :: s) = n :: bytes s := by
  simp [bytes, h]

theorem decodeBehind_of_ascii (run s : List Char) (h : ∀ c ∈ s, isAscii c = true) :
    decodeBehind run s = decodeRun (run.reverse ++ s) := by
  induction s generalizing run with
  | nil => simp [decodeBehind]
  | cons c s ih =>
      have hc : isAscii c = true := h c (by simp)
      rw [decodeBehind, if_pos hc, ih (c :: run) fun d hd => h d (by simp [hd])]
      simp

/-- An ASCII text is one run. -/
theorem decode_of_ascii (s : List Char) (h : ∀ c ∈ s, isAscii c = true) :
    decode s = decodeRun s :=
  decodeBehind_of_ascii [] s h

end JitExplorer.Text.Percent
