/-
**UTF-8.**

A byte sequence is read from the front.  What stands there is either the encoding of a character or
a fault: a byte that starts no character, a character cut short by the end of the sequence, or a
character cut short by a byte that does not continue it.  A fault covers the bytes that could still
have become a character, and reading goes on behind them.  A strict reader stops at the first
fault, a lenient one puts a replacement character in its place.

Bytes are natural numbers; a number above 255 is treated as a byte that starts no character.

Main definitions:

* `Text.Utf8.encode` — the bytes of a text;
* `Text.Utf8.scan` — the characters and faults of a byte sequence;
* `Text.Utf8.decode` — the text of a byte sequence, or its first fault;
* `Text.Utf8.decodeLossy` — the text with a replacement character for each fault;
* `Text.unifyNewlines` — a text in which every line ends with a single newline character.

Main results:

* `Text.Utf8.decode_eq_ok_iff` — the strict reader accepts exactly the sequences without a fault.
-/

import JitExplorer.Text.Digit
import JitExplorer.Text.Quoted

set_option autoImplicit false

namespace JitExplorer.Text

namespace Utf8

/-! ### Encoding -/

/-- The bytes of a character. -/
def encodeChar (c : Char) : List Nat :=
  let n := c.toNat
  if n < 0x80 then [n]
  else if n < 0x800 then [0xC0 + n / 0x40, 0x80 + n % 0x40]
  else if n < 0x10000 then [0xE0 + n / 0x1000, 0x80 + n / 0x40 % 0x40, 0x80 + n % 0x40]
  else [0xF0 + n / 0x40000, 0x80 + n / 0x1000 % 0x40, 0x80 + n / 0x40 % 0x40, 0x80 + n % 0x40]

/-- The bytes of a text. -/
def encode (s : List Char) : List Nat :=
  s.flatMap encodeChar

/-! ### Reading from the front -/

/-- Why some bytes are not a character. -/
inductive Reason where
  /-- The byte starts no character. -/
  | startByte
  /-- The next byte does not continue the character. -/
  | continuation
  /-- The sequence ends inside the character. -/
  | truncated
  deriving DecidableEq, Repr

/-- One thing that is found in a byte sequence. -/
inductive Item where
  /-- A character that takes up so many bytes. -/
  | char (c : Char) (width : Nat)
  /-- Bytes that are no character. -/
  | fault (reason : Reason) (bytes : List Nat)
  deriving DecidableEq, Repr

/-- The number of bytes that an item takes up. -/
def Item.width : Item → Nat
  | .char _ width => width
  | .fault _ bytes => bytes.length

/-- The bytes that continue a character. -/
def isTail (b : Nat) : Bool :=
  0x80 ≤ b && b ≤ 0xBF

/-- The second bytes that may follow the first byte of a character of three bytes. -/
def isSecondOfThree (a b : Nat) : Bool :=
  isTail b && !(a == 0xE0 && b < 0xA0) && !(a == 0xED && 0xA0 ≤ b)

/-- The second bytes that may follow the first byte of a character of four bytes. -/
def isSecondOfFour (a b : Nat) : Bool :=
  isTail b && !(a == 0xF0 && b < 0x90) && !(a == 0xF4 && 0x90 ≤ b)

/-- What a first byte below 0xE0 and the bytes behind it begin with. -/
def frontOfTwo (a : Nat) : List Nat → Item
  | [] => .fault .truncated [a]
  | b :: _ =>
      if isTail b then .char (Char.ofNat ((a - 0xC0) * 0x40 + (b - 0x80))) 2
      else .fault .continuation [a]

/-- What a first byte from 0xE0 to 0xEF and the bytes behind it begin with. -/
def frontOfThree (a : Nat) : List Nat → Item
  | [] => .fault .truncated [a]
  | b :: r =>
      if isSecondOfThree a b then
        match r with
        | [] => .fault .truncated [a, b]
        | c :: _ =>
            if isTail c then
              .char (Char.ofNat ((a - 0xE0) * 0x1000 + (b - 0x80) * 0x40 + (c - 0x80))) 3
            else .fault .continuation [a, b]
      else .fault .continuation [a]

/-- What a first byte from 0xF0 to 0xF4 and the bytes behind it begin with. -/
def frontOfFour (a : Nat) : List Nat → Item
  | [] => .fault .truncated [a]
  | b :: r =>
      if isSecondOfFour a b then
        match r with
        | [] => .fault .truncated [a, b]
        | c :: r₂ =>
            if isTail c then
              match r₂ with
              | [] => .fault .truncated [a, b, c]
              | d :: _ =>
                  if isTail d then
                    .char (Char.ofNat ((a - 0xF0) * 0x40000 + (b - 0x80) * 0x1000 +
                      (c - 0x80) * 0x40 + (d - 0x80))) 4
                  else .fault .continuation [a, b, c]
            else .fault .continuation [a, b]
      else .fault .continuation [a]

/-- What a byte and the bytes behind it begin with. -/
def front (a : Nat) (r : List Nat) : Item :=
  if a < 0x80 then .char (Char.ofNat a) 1
  else if a < 0xC2 then .fault .startByte [a]
  else if a < 0xE0 then frontOfTwo a r
  else if a < 0xF0 then frontOfThree a r
  else if a < 0xF5 then frontOfFour a r
  else .fault .startByte [a]

/-- The items of a byte sequence whose first `skip` bytes belong to an item that was read. -/
def scanAfter : Nat → List Nat → List Item
  | _, [] => []
  | skip + 1, _ :: r => scanAfter skip r
  | 0, a :: r =>
      let item := front a r
      item :: scanAfter (item.width - 1) r

/-- The characters and faults of a byte sequence, from the front. -/
def scan (bytes : List Nat) : List Item :=
  scanAfter 0 bytes

/-! ### Strict and lenient reading -/

/-- The first fault of a byte sequence and the place where it starts. -/
structure Fault where
  reason : Reason
  position : Nat
  bytes : List Nat
  deriving DecidableEq, Repr

/-- The wording of a reason. -/
def Reason.message : Reason → String
  | .startByte => "invalid start byte"
  | .continuation => "invalid continuation byte"
  | .truncated => "unexpected end of data"

/-- The wording of a fault: one byte is shown, several are named by their places. -/
def Fault.message (f : Fault) : String :=
  "'utf-8' codec can't decode " ++
    (match f.bytes with
      | [b] => "byte 0x" ++ String.ofList (hexDigits 2 b) ++ " in position " ++ natText f.position
      | bs => "bytes in position " ++ natText f.position ++ "-" ++
          natText (f.position + bs.length - 1)) ++
    ": " ++ f.reason.message

/-- The characters of a list of items that starts at a given place, or its first fault. -/
def collect (position : Nat) : List Item → Except Fault (List Char)
  | [] => .ok []
  | .char c width :: items => (collect (position + width) items).map (c :: ·)
  | .fault reason bytes :: _ => .error ⟨reason, position, bytes⟩

/-- The text of a byte sequence, or its first fault. -/
def decode (bytes : List Nat) : Except Fault (List Char) :=
  collect 0 (scan bytes)

/-- The character that stands for bytes that are no character. -/
def replacement : Char := '\ufffd'

/-- The character that a lenient reader sees for an item. -/
def Item.toChar : Item → Char
  | .char c _ => c
  | .fault _ _ => replacement

/-- The text of a byte sequence, with a replacement character for each fault. -/
def decodeLossy (bytes : List Nat) : List Char :=
  (scan bytes).map Item.toChar

theorem collect_eq_ok_iff (position : Nat) (items : List Item) (s : List Char) :
    collect position items = .ok s ↔
      (∀ item ∈ items, ∃ c width, item = .char c width) ∧ s = items.map Item.toChar := by
  induction items generalizing position s with
  | nil =>
      constructor
      · intro h
        cases h
        simp
      · rintro ⟨_, rfl⟩
        rfl
  | cons item items ih =>
      cases item with
      | char c width =>
          simp only [collect]
          cases hr : collect (position + width) items with
          | error f =>
              have := ih (position + width) (items.map Item.toChar)
              simp only [hr, reduceCtorEq, and_true, false_iff] at this
              simp only [Except.map, reduceCtorEq, List.mem_cons, forall_eq_or_imp, false_iff]
              exact fun h => this h.1.2
          | ok t =>
              have := (ih (position + width) t).1 hr
              obtain ⟨hall, rfl⟩ := this
              simp only [Except.map, Except.ok.injEq, List.map_cons, Item.toChar]
              constructor
              · rintro rfl
                refine ⟨?_, rfl⟩
                intro item hitem
                simp only [List.mem_cons] at hitem
                rcases hitem with rfl | hitem
                · exact ⟨c, width, rfl⟩
                · exact hall item hitem
              · rintro ⟨_, rfl⟩
                rfl
      | fault reason bytes =>
          simp [collect]

/-- The strict reader accepts exactly the sequences without a fault, and agrees there with the
lenient one. -/
theorem decode_eq_ok_iff (bytes : List Nat) (s : List Char) :
    decode bytes = .ok s ↔
      (∀ item ∈ scan bytes, ∃ c width, item = .char c width) ∧ s = decodeLossy bytes :=
  collect_eq_ok_iff 0 (scan bytes) s

end Utf8

/-! ### Newlines -/

/-- A text in which a carriage return, with or without a newline behind it, has become a single
newline. -/
def unifyNewlines : List Char → List Char
  | [] => []
  | '\r' :: '\n' :: s => '\n' :: unifyNewlines s
  | c :: s => (if c = '\r' then '\n' else c) :: unifyNewlines s

end JitExplorer.Text
