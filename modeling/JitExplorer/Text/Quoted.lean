/-
**Quoted texts.**

Messages show a text between quotes.  Apostrophes are the quotes, unless the text holds an
apostrophe and no quotation mark, when quotation marks are.  Inside, the quote in use and the
backslash stand behind a backslash, newline, carriage return and tab are written by their letters,
and every other character that is not printable by its code: two, four or eight hexadecimal digits
behind `x`, `u` or `U`, the shortest form that fits.

Main definitions:

* `Text.quoteMark` — the quote in use for a text;
* `Text.escape` — one character as it stands between quotes;
* `Text.quote`, `Text.quoted` — the quoted text;
* `Text.quotedList` — a list of texts in brackets, each quoted.
-/

import JitExplorer.Text.Lines
import JitExplorer.Text.Printable

set_option autoImplicit false

namespace JitExplorer.Text

/-- The hexadecimal digit of a value below sixteen, in lower case. -/
def hexDigit (d : Nat) : Char :=
  if d < 10 then Char.ofNat (48 + d) else Char.ofNat (87 + d)

/-- The last `width` hexadecimal digits of a number. -/
def hexDigits : Nat → Nat → List Char
  | 0, _ => []
  | width + 1, n => hexDigits width (n / 16) ++ [hexDigit (n % 16)]

/-- The quote in use: apostrophes, unless only they occur in the text. -/
def quoteMark (s : List Char) : Char :=
  if s.contains '\'' && !s.contains '"' then '"' else '\''

/-- The code of a character behind a backslash, in the shortest of the three forms. -/
def escapeCode (c : Char) : List Char :=
  if c.toNat < 0x100 then '\\' :: 'x' :: hexDigits 2 c.toNat
  else if c.toNat < 0x10000 then '\\' :: 'u' :: hexDigits 4 c.toNat
  else '\\' :: 'U' :: hexDigits 8 c.toNat

/-- One character as it stands between the quotes `mark`. -/
def escape (mark c : Char) : List Char :=
  if c = mark || c = '\\' then ['\\', c]
  else if c = '\n' then ['\\', 'n']
  else if c = '\r' then ['\\', 'r']
  else if c = '\t' then ['\\', 't']
  else if isPrintable c then [c]
  else escapeCode c

/-- A text between quotes. -/
def quote (s : List Char) : List Char :=
  let mark := quoteMark s
  mark :: s.flatMap (escape mark) ++ [mark]

/-- A string between quotes. -/
def quoted (s : String) : String :=
  String.ofList (quote s.toList)

/-- A list of strings in brackets, each between quotes. -/
def quotedList (ss : List String) : String :=
  "[" ++ join ", " (ss.map quoted) ++ "]"

end JitExplorer.Text
