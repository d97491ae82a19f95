/-
**Escaped forms of a text.**

A text is written into an address with escapes: letters, digits and a few marks stand for
themselves, and every byte of any other character is a percent sign and two hexadecimal digits, in
small or in capital letters.  So a text has many escaped forms, but each of them is read back as the
text.  What is read are bytes first, and the characters of the text are found in these afterwards,
since a single escape need not be a character.

Main definitions:

* `Text.Percent.isPlain` — the characters that stand for themselves;
* `Text.Percent.EscapesBytes`, `Text.Percent.Escapes` — the escaped forms of bytes and of a text.

Main results:

* `Text.Percent.Escapes.isPlain_or_percent` — the characters of an escaped form;
* `Text.Percent.bytes_of_escapes` — an escaped form writes the bytes of the text;
* `Text.Percent.decode_of_escapes` — **an escaped form is read back as the text**;
* `Text.Percent.exists_escapes` — every text has an escaped form.
-/

import JitExplorer.Proofs.Text.Encoding
import JitExplorer.Text.Percent

set_option autoImplicit false

namespace JitExplorer.Text

/-- The bytes of a character are bytes. -/
theorem Utf8.encodeChar_lt (c : Char) : ∀ n ∈ encodeChar c, n < 0x100 := by
  have hbounds := toNat_bounds c
  simp only [encodeChar]
  -- One case for each number of bytes.
  split
  · simp
    omega
  split
  · simp
    omega
  split
  · simp
    omega
  · simp
    omega

namespace Percent

/-! ### Characters that stand for themselves -/

/-- The marks that stand for themselves. -/
def marks : List Char := ['_', '.', '-', '~', '/']

/-- The characters that stand for themselves: letters and digits of ASCII, and the marks. -/
def isPlain (c : Char) : Bool :=
  c.isAlphanum || marks.contains c

theorem isAscii_of_isPlain {c : Char} (h : isPlain c = true) : isAscii c = true := by
  rcases Bool.or_eq_true_iff.1 h with h | h
  · have hbelow (last : Char) (hlast : last.toNat < 0x80) (hle : c.val ≤ last.val) :
        isAscii c = true :=
      decide_eq_true (Nat.lt_of_le_of_lt (UInt32.le_iff_toNat_le.1 hle) hlast)
    rcases Bool.or_eq_true_iff.1 h with hletter | hdigit
    · rcases Bool.or_eq_true_iff.1 hletter with hupper | hlower
      · exact hbelow 'Z' (by decide) (of_decide_eq_true hupper).2
      · exact hbelow 'z' (by decide) (of_decide_eq_true (Bool.and_eq_true_iff.1 hlower).2)
    · exact hbelow '9' (by decide) (of_decide_eq_true (Bool.and_eq_true_iff.1 hdigit).2)
  · have hmarks : marks.all isAscii = true := by decide
    exact List.all_eq_true.1 hmarks c (by simpa using h)

/-- A character that is no escape in front of others is its own byte. -/
theorem bytes_cons_of_ne {c : Char} (h : c ≠ '%') (s : List Char) :
    bytes (c :: s) = c.toNat :: bytes s := by
  rw [bytes.eq_def]
  split
  · rename_i heq
    cases heq
  · rename_i heq
    cases heq
    exact absurd rfl h
  · rename_i heq
    cases heq
    rfl

/-! ### Hexadecimal digits -/

/-- A hexadecimal digit of a value, among the small or the capital ones. -/
def IsHexDigit (value : Nat) (c : Char) : Prop :=
  "0123456789abcdef".toList[value]? = some c ∨ "0123456789ABCDEF".toList[value]? = some c

/-- What holds of all hexadecimal digits with their values holds of each of them. -/
theorem IsHexDigit.of_forall {p : Nat → Char → Prop}
    (hsmall : ∀ v : Fin 16, p v ("0123456789abcdef".toList.get v))
    (hcapital : ∀ v : Fin 16, p v ("0123456789ABCDEF".toList.get v)) {value : Nat} {c : Char}
    (h : IsHexDigit value c) : p value c := by
  rcases h with h | h
  · obtain ⟨hlt, rfl⟩ := List.getElem?_eq_some_iff.1 h
    exact hsmall ⟨value, hlt⟩
  · obtain ⟨hlt, rfl⟩ := List.getElem?_eq_some_iff.1 h
    exact hcapital ⟨value, hlt⟩

theorem IsHexDigit.hexValue?_eq {value : Nat} {c : Char} (h : IsHexDigit value c) :
    hexValue? c = some value :=
  h.of_forall (p := fun v c => hexValue? c = some v) (by decide) (by decide)

theorem IsHexDigit.isPlain {value : Nat} {c : Char} (h : IsHexDigit value c) :
    isPlain c = true :=
  h.of_forall (p := fun _ c => Percent.isPlain c = true) (by decide) (by decide)

theorem exists_isHexDigit {value : Nat} (h : value < 16) : ∃ c, IsHexDigit value c :=
  ⟨"0123456789abcdef".toList.get ⟨value, h⟩, .inl (List.getElem?_eq_getElem _)⟩

/-! ### Escaped forms -/

/-- Bytes that are written as escapes. -/
inductive EscapesBytes : List Nat → List Char → Prop where
  | nil : EscapesBytes [] []
  | cons {byte : Nat} {others : List Nat} {high low : Char} {s : List Char} :
      IsHexDigit (byte / 16) high → IsHexDigit (byte % 16) low → EscapesBytes others s →
      EscapesBytes (byte :: others) ('%' :: high :: low :: s)

/-- **The escaped forms of a text:** plain characters stand for themselves, and the bytes of all
others are escaped. -/
inductive Escapes : List Char → List Char → Prop where
  | nil : Escapes [] []
  | plain {c : Char} {s t : List Char} :
      isPlain c = true → Escapes s t → Escapes (c :: s) (c :: t)
  | escaped {c : Char} {s e t : List Char} :
      isPlain c = false → EscapesBytes (Utf8.encodeChar c) e → Escapes s t →
      Escapes (c :: s) (e ++ t)

theorem EscapesBytes.isPlain_or_percent {ns : List Nat} {e : List Char} (h : EscapesBytes ns e) :
    ∀ c ∈ e, isPlain c = true ∨ c = '%' := by
  induction h with
  | nil => simp
  | cons hhigh hlow _ ih =>
      exact List.forall_mem_cons.2 ⟨.inr rfl, List.forall_mem_cons.2 ⟨.inl hhigh.isPlain,
        List.forall_mem_cons.2 ⟨.inl hlow.isPlain, ih⟩⟩⟩

/-- **The characters of an escaped form.** -/
theorem Escapes.isPlain_or_percent {s t : List Char} (h : Escapes s t) :
    ∀ c ∈ t, isPlain c = true ∨ c = '%' := by
  induction h with
  | nil => simp
  | plain hc _ ih => exact List.forall_mem_cons.2 ⟨.inl hc, ih⟩
  | escaped _ he _ ih => exact List.forall_mem_append.2 ⟨he.isPlain_or_percent, ih⟩

/-- A character that is not plain and no percent sign does not occur in an escaped form. -/
theorem Escapes.notMem {s t : List Char} (h : Escapes s t) {c : Char} (hplain : isPlain c = false)
    (hpercent : c ≠ '%') : c ∉ t := by
  intro hc
  rcases h.isPlain_or_percent c hc with hc | hc
  · rw [hplain] at hc
    cases hc
  · exact hpercent hc

theorem Escapes.isAscii {s t : List Char} (h : Escapes s t) : ∀ c ∈ t, isAscii c = true := by
  intro c hc
  rcases h.isPlain_or_percent c hc with hc | rfl
  · exact isAscii_of_isPlain hc
  · rfl

/-! ### Reading escaped forms -/

/-- Bytes that are written as escapes are read back. -/
theorem bytes_append_of_escapesBytes {ns : List Nat} {e : List Char} (h : EscapesBytes ns e)
    (t : List Char) : bytes (e ++ t) = ns ++ bytes t := by
  induction h with
  | nil => rfl
  | @cons byte others high low s hhigh hlow _ ih =>
      have hbyte : byte? high low = some byte := by
        rw [byte?, hhigh.hexValue?_eq, hlow.hexValue?_eq]
        simp only [Option.some.injEq]
        omega
      rw [List.cons_append, List.cons_append, List.cons_append, bytes_escape _ hbyte, ih,
        List.cons_append]

/-- **An escaped form writes the bytes of the text.** -/
theorem bytes_of_escapes {s t : List Char} (h : Escapes s t) : bytes t = Utf8.encode s := by
  induction h with
  | nil => rfl
  | @plain c s t hc _ ih =>
      have hpercent : c ≠ '%' := by
        rintro rfl
        cases hc
      have hcode : c.toNat < 0x80 := of_decide_eq_true (isAscii_of_isPlain hc)
      have hchar : Utf8.encodeChar c = [c.toNat] := if_pos hcode
      rw [bytes_cons_of_ne hpercent, ih, Utf8.encode, Utf8.encode, List.flatMap_cons, hchar,
        List.singleton_append]
  | escaped _ he _ ih =>
      rw [bytes_append_of_escapesBytes he, ih, Utf8.encode, Utf8.encode, List.flatMap_cons]

/-- **An escaped form is read back as the text.** -/
theorem decode_of_escapes {s t : List Char} (h : Escapes s t) : decode t = s := by
  obtain ⟨-, hlossy⟩ := (Utf8.decode_eq_ok_iff (Utf8.encode s) s).1 (Utf8.decode_encode s)
  rw [decode_of_ascii t h.isAscii, decodeRun, bytes_of_escapes h, ← hlossy]

/-! ### Writing escaped forms -/

theorem exists_escapesBytes (ns : List Nat) (h : ∀ n ∈ ns, n < 0x100) :
    ∃ e, EscapesBytes ns e := by
  induction ns with
  | nil => exact ⟨[], .nil⟩
  | cons n ns ih =>
      obtain ⟨hn, hns⟩ := List.forall_mem_cons.1 h
      obtain ⟨e, he⟩ := ih hns
      obtain ⟨high, hhigh⟩ := exists_isHexDigit (show n / 16 < 16 by omega)
      obtain ⟨low, hlow⟩ := exists_isHexDigit (show n % 16 < 16 by omega)
      exact ⟨'%' :: high :: low :: e, .cons hhigh hlow he⟩

/-- **Every text has an escaped form.** -/
theorem exists_escapes (s : List Char) : ∃ t, Escapes s t := by
  induction s with
  | nil => exact ⟨[], .nil⟩
  | cons c s ih =>
      obtain ⟨t, ht⟩ := ih
      cases hc : isPlain c with
      | true => exact ⟨c :: t, .plain hc ht⟩
      | false =>
          obtain ⟨e, he⟩ := exists_escapesBytes (Utf8.encodeChar c) (Utf8.encodeChar_lt c)
          exact ⟨e ++ t, .escaped hc he ht⟩

end Percent

end JitExplorer.Text
