/-
**The framed output.**

The explorer writes one block per specialization.  A block is a header line, the stage text, and an
empty line:

    <[source line] [number of lines] [name] [argument types]>
    ... exactly that many lines ...
    (an empty line)

The number of lines in the header decides where the text ends, so the text may hold anything: empty
lines, lines that look like headers, any character but a missing newline at its end.

The reader works on the pieces of the text between newlines.  It takes a header, as many lines as
the header declares, and an empty line, until nothing is left; whatever does not fit is a fault that
names its line.

Main definitions:

* `Framing.Entry`, `Framing.header`, `Framing.write` — what is written;
* `Framing.formatHeader` — the header line, unless it cannot be written;
* `Block` — what is read;
* `Framing.RawHeader.ofLine?` — the fields of a header line;
* `Framing.read` — the blocks of a text, or the first `Framing.ReadFault`.

Main results:

* `Framing.formatHeader_of_hasShortNumbers`, `Framing.formatHeader_of_not_hasShortNumbers` — a
  header line is written exactly if its numbers are short;
* `Framing.readLines_nil` — the end of the lines ends the blocks.
-/

import JitExplorer.Failure
import JitExplorer.Text.Blank

set_option autoImplicit false

namespace JitExplorer

/-- One block of a framed output: the source line, the declared number of lines, the name, the
argument types as one text, and the stage text. -/
structure Block where
  line : Int
  lineCount : Int
  name : String
  args : String
  text : String
  deriving DecidableEq, Repr

namespace Framing

/-! ### Writing -/

/-- What the writer needs to know about one specialization and its stage text. -/
structure Entry where
  line : Int
  name : String
  argTypes : List String
  output : StageOutput
  deriving DecidableEq, Repr

/-- The header line of an entry, without its newline. -/
def header (entry : Entry) : String :=
  "<" ++ Text.intText entry.line ++ " " ++ Text.intText entry.output.lineCount ++ " " ++
    entry.name ++ " " ++ Text.join ", " entry.argTypes ++ ">"

/-- The header line of an entry, unless one of its numbers has too many digits. -/
def formatHeader (entry : Entry) : Except Failure String := do
  let line ← numeral entry.line
  let lineCount ← numeral entry.output.lineCount
  return "<" ++ line ++ " " ++ lineCount ++ " " ++ entry.name ++ " " ++
    Text.join ", " entry.argTypes ++ ">"

/-- The numbers of an entry are short enough to be written, and to be read. -/
structure Entry.HasShortNumbers (entry : Entry) : Prop where
  line : (Text.natDigits entry.line.natAbs).length ≤ Text.maxDigits
  lineCount : (Text.natDigits entry.output.lineCount.natAbs).length ≤ Text.maxDigits

theorem formatHeader_of_hasShortNumbers {entry : Entry} (h : entry.HasShortNumbers) :
    formatHeader entry = .ok (header entry) := by
  simp only [formatHeader, numeral, if_neg (Nat.not_lt.2 h.line), if_neg (Nat.not_lt.2 h.lineCount)]
  rfl

theorem formatHeader_of_not_hasShortNumbers {entry : Entry} (h : ¬ entry.HasShortNumbers) :
    formatHeader entry = .error .oversized := by
  by_cases hline : (Text.natDigits entry.line.natAbs).length ≤ Text.maxDigits
  · have hcount : ¬ (Text.natDigits entry.output.lineCount.natAbs).length ≤ Text.maxDigits :=
      fun hcount => h ⟨hline, hcount⟩
    simp only [formatHeader, numeral, if_neg (Nat.not_lt.2 hline), if_pos (Nat.not_le.1 hcount)]
    rfl
  · simp only [formatHeader, numeral, if_pos (Nat.not_le.1 hline)]
    rfl

/-- One entry as it is written: header, stage text, empty line. -/
def writeEntry (entry : Entry) : String :=
  header entry ++ "\n" ++ entry.output.text ++ "\n"

/-- Entries as they are written, in order. -/
def write : List Entry → String
  | [] => ""
  | entry :: entries => writeEntry entry ++ write entries

/-! ### Header lines -/

/-- The fields of a header line as they are written. -/
structure RawHeader where
  line : List Char
  lineCount : List Char
  name : List Char
  args : List Char
  deriving DecidableEq, Repr

/-- A text without its first character, if that is the given one. -/
def dropChar? (c : Char) : List Char → Option (List Char)
  | [] => none
  | d :: s => if d = c then some s else none

/-- A text without its last character, if that is the given one. -/
def dropLast? (c : Char) (s : List Char) : Option (List Char) :=
  if s.getLast? = some c then some s.dropLast else none

/-- A non-empty run of characters at the front of a text, and the rest. -/
def span? (p : Char → Bool) (s : List Char) : Option (List Char × List Char) :=
  match s.takeWhile p with
  | [] => none
  | c :: t => some (c :: t, s.dropWhile p)

/-- The fields of a header line: two numerals, a name without blanks, and the rest up to the closing
bracket, with single spaces between them. -/
def RawHeader.ofLine? (s : List Char) : Option RawHeader := do
  let s ← dropChar? '<' s
  let (line, s) ← span? Text.isDigit s
  let s ← dropChar? ' ' s
  let (lineCount, s) ← span? Text.isDigit s
  let s ← dropChar? ' ' s
  let (name, s) ← span? (fun c => !Text.isBlank c) s
  let s ← dropChar? ' ' s
  let args ← dropLast? '>' s
  return { line, lineCount, name, args }

/-! ### Faults -/

/-- Why a text is not a framed output, with the line that shows it. -/
inductive ReadFault where
  /-- A header was expected here. -/
  | noHeader (line : Nat) (got : List Char)
  /-- The block that starts here declares more lines than are left. -/
  | endsEarly (line : Nat) (name : List Char) (declared : Nat)
  /-- An empty line was expected here. -/
  | noSeparator (line : Nat) (name : List Char)
  /-- A numeral has too many digits to be read. -/
  | oversized (digits : Nat)
  deriving DecidableEq, Repr

/-- The wording of a fault, without its line. -/
def ReadFault.detail : ReadFault → String
  | .noHeader _ got => "expected a block header, got " ++ String.ofList (Text.quote got)
  | .endsEarly _ name declared =>
      "block " ++ String.ofList name ++ " declares " ++ Text.natText declared ++
        " lines but the output ends early"
  | .noSeparator _ name => "missing blank line after block " ++ String.ofList name
  | .oversized digits =>
      "Exceeds the limit (" ++ Text.natText Text.maxDigits ++
        " digits) for integer string conversion: value has " ++ Text.natText digits ++
        " digits; use sys.set_int_max_str_digits() to increase the limit"

/-- A fault as a failure.  A numeral that is too long is not the framing's own fault. -/
def ReadFault.toFailure (fault : ReadFault) : Failure :=
  match fault with
  | .noHeader line _ => .explorer (.framing line fault.detail)
  | .endsEarly line _ _ => .explorer (.framing line fault.detail)
  | .noSeparator line _ => .explorer (.framing line fault.detail)
  | .oversized _ => .ordinary "ValueError" fault.detail

/-! ### Reading -/

/-- The value of a numeral, unless it is too long. -/
def readNumeral (digits : List Char) : Except ReadFault Nat :=
  if Text.maxDigits < digits.length then .error (.oversized digits.length)
  else .ok (Text.numeralValue digits)

/-- The block with the given header fields, values and lines of text. -/
def RawHeader.block (raw : RawHeader) (line lineCount : Nat) (body : List (List Char)) : Block where
  line := line
  lineCount := lineCount
  name := String.ofList raw.name
  args := String.ofList raw.args
  text := String.ofList (Text.unpieces body)

/-- The blocks of a list of lines, of which the first has the number `i + 1`. -/
def readLines (i : Nat) : List (List Char) → Except ReadFault (List Block)
  | [] => .ok []
  | l :: ls =>
      match RawHeader.ofLine? l with
      | none => .error (.noHeader (i + 1) l)
      | some raw =>
          match readNumeral raw.line, readNumeral raw.lineCount with
          | .error fault, _ => .error fault
          | .ok _, .error fault => .error fault
          | .ok line, .ok lineCount =>
              if ls.length < lineCount then .error (.endsEarly (i + 1) raw.name lineCount)
              else
                -- The lines of the text are counted, not looked at.
                match h : ls.drop lineCount with
                | [] :: rest =>
                    (readLines (i + lineCount + 2) rest).map
                      (raw.block line lineCount (ls.take lineCount) :: ·)
                | _ => .error (.noSeparator (i + lineCount + 2) raw.name)
termination_by ls => ls.length
decreasing_by
  have := congrArg List.length h
  simp only [List.length_drop, List.length_cons] at this ⊢
  omega

theorem readLines_nil (i : Nat) : readLines i [] = .ok [] := by
  rw [readLines]

/-- The lines of a framed output: the empty piece behind a final newline is no line. -/
def framedLines (s : List Char) : List (List Char) :=
  let ls := Text.pieces s
  if ls.getLast? = some [] then ls.dropLast else ls

/-- **The blocks of a text, or its first fault.** -/
def read (text : String) : Except ReadFault (List Block) :=
  readLines 0 (framedLines text.toList)

end Framing

end JitExplorer
