/-
**Texts as they are kept in a file.**

A text is written to a file as UTF-8 and read back in two steps: the bytes become characters again,
and every line end becomes a single newline.  The first step gives back any text.  The second one
gives back exactly the texts without a carriage return.

Main results:

* `Text.Utf8.decode_encode` — **the bytes of a text are read back as the text**;
* `Text.unifyNewlines_of_notMem` — a text without a carriage return keeps its line ends;
* `Text.return_notMem_unifyNewlines` — no carriage return is left.
-/

import JitExplorer.Text.Utf8

set_option autoImplicit false

namespace JitExplorer.Text

namespace Utf8

/-! ### One character -/

/-- The numbers of characters: surrogates are left out. -/
theorem toNat_bounds (c : Char) : c.toNat < 0xD800 ∨ 0xDFFF < c.toNat ∧ c.toNat < 0x110000 :=
  c.valid

/-- A character is the one with its number. -/
theorem ofNat_eq_of_eq_toNat {c : Char} {n : Nat} (h : n = c.toNat) : Char.ofNat n = c := by
  rw [h, Char.ofNat_toNat]

theorem isTail_eq_true {b : Nat} (h : 0x80 ≤ b) (h' : b ≤ 0xBF) : isTail b = true := by
  simp [isTail, h, h']

/-- Overlong encodings and surrogates are what the second of three bytes rules out. -/
theorem isSecondOfThree_eq_true {a b : Nat} (h : isTail b = true) (hlong : a = 0xE0 → 0xA0 ≤ b)
    (hsurrogate : a = 0xED → b < 0xA0) : isSecondOfThree a b = true := by
  simp only [isSecondOfThree, h, Bool.true_and, Bool.and_eq_true, Bool.not_eq_true',
    Bool.and_eq_false_imp, beq_iff_eq, decide_eq_false_iff_not, Nat.not_lt, Nat.not_le]
  exact ⟨hlong, hsurrogate⟩

/-- Overlong encodings and numbers beyond all characters are what the second of four bytes rules
out. -/
theorem isSecondOfFour_eq_true {a b : Nat} (h : isTail b = true) (hlong : a = 0xF0 → 0x90 ≤ b)
    (hbeyond : a = 0xF4 → b < 0x90) : isSecondOfFour a b = true := by
  simp only [isSecondOfFour, h, Bool.true_and, Bool.and_eq_true, Bool.not_eq_true',
    Bool.and_eq_false_imp, beq_iff_eq, decide_eq_false_iff_not, Nat.not_lt, Nat.not_le]
  exact ⟨hlong, hbeyond⟩

theorem frontOfTwo_char {a b : Nat} {c : Char} (rest : List Nat) (hb : isTail b = true)
    (hc : (a - 0xC0) * 0x40 + (b - 0x80) = c.toNat) :
    frontOfTwo a (b :: rest) = .char c 2 := by
  simp only [frontOfTwo, hb, if_true, ofNat_eq_of_eq_toNat hc]

theorem frontOfThree_char {a b d : Nat} {c : Char} (rest : List Nat)
    (hb : isSecondOfThree a b = true) (hd : isTail d = true)
    (hc : (a - 0xE0) * 0x1000 + (b - 0x80) * 0x40 + (d - 0x80) = c.toNat) :
    frontOfThree a (b :: d :: rest) = .char c 3 := by
  simp only [frontOfThree, hb, hd, if_true, ofNat_eq_of_eq_toNat hc]

theorem frontOfFour_char {a b d e : Nat} {c : Char} (rest : List Nat)
    (hb : isSecondOfFour a b = true) (hd : isTail d = true) (he : isTail e = true)
    (hc : (a - 0xF0) * 0x40000 + (b - 0x80) * 0x1000 + (d - 0x80) * 0x40 + (e - 0x80) =
      c.toNat) :
    frontOfFour a (b :: d :: e :: rest) = .char c 4 := by
  simp only [frontOfFour, hb, hd, he, if_true, ofNat_eq_of_eq_toNat hc]

/-- The bytes of a character, and whatever follows them, begin with that character. -/
theorem front_encodeChar (c : Char) :
    ∃ a r, encodeChar c = a :: r ∧ ∀ rest, front a (r ++ rest) = .char c (r.length + 1) := by
  have hbounds := toNat_bounds c
  unfold encodeChar
  -- One case for each number of bytes.
  by_cases h₁ : c.toNat < 0x80
  · exact ⟨_, _, if_pos h₁, fun rest => by simp [front, h₁]⟩
  rw [if_neg h₁]
  by_cases h₂ : c.toNat < 0x800
  · refine ⟨_, _, if_pos h₂, fun rest => ?_⟩
    have hfront : front (0xC0 + c.toNat / 0x40) = frontOfTwo (0xC0 + c.toNat / 0x40) := by
      funext r
      rw [front, if_neg (by omega), if_neg (by omega), if_pos (by omega)]
    rw [hfront]
    exact frontOfTwo_char rest (isTail_eq_true (by omega) (by omega)) (by omega)
  rw [if_neg h₂]
  by_cases h₃ : c.toNat < 0x10000
  · refine ⟨_, _, if_pos h₃, fun rest => ?_⟩
    have hfront : front (0xE0 + c.toNat / 0x1000) = frontOfThree (0xE0 + c.toNat / 0x1000) := by
      funext r
      rw [front, if_neg (by omega), if_neg (by omega), if_neg (by omega), if_pos (by omega)]
    rw [hfront]
    have hsecond := isSecondOfThree_eq_true (a := 0xE0 + c.toNat / 0x1000)
      (b := 0x80 + c.toNat / 0x40 % 0x40) (isTail_eq_true (by omega) (by omega)) (by omega)
      (by omega)
    exact frontOfThree_char rest hsecond (isTail_eq_true (by omega) (by omega)) (by omega)
  · refine ⟨_, _, if_neg h₃, fun rest => ?_⟩
    have hfront : front (0xF0 + c.toNat / 0x40000) = frontOfFour (0xF0 + c.toNat / 0x40000) := by
      funext r
      rw [front, if_neg (by omega), if_neg (by omega), if_neg (by omega), if_neg (by omega),
        if_pos (by omega)]
    rw [hfront]
    have hsecond := isSecondOfFour_eq_true (a := 0xF0 + c.toNat / 0x40000)
      (b := 0x80 + c.toNat / 0x1000 % 0x40) (isTail_eq_true (by omega) (by omega)) (by omega)
      (by omega)
    exact frontOfFour_char rest hsecond (isTail_eq_true (by omega) (by omega))
      (isTail_eq_true (by omega) (by omega)) (by omega)

/-! ### Texts -/

/-- The bytes of an item that was read are passed over. -/
theorem scanAfter_append (r rest : List Nat) : scanAfter r.length (r ++ rest) = scan rest := by
  induction r with
  | nil => rfl
  | cons a r ih => exact ih

theorem scan_encodeChar_append (c : Char) (rest : List Nat) :
    ∃ width, scan (encodeChar c ++ rest) = .char c width :: scan rest := by
  obtain ⟨a, r, hbytes, hfront⟩ := front_encodeChar c
  refine ⟨r.length + 1, ?_⟩
  rw [hbytes, List.cons_append, scan, scanAfter, hfront rest]
  exact congrArg _ (scanAfter_append r rest)

/-- **The bytes of a text are read back as the text.** -/
theorem decode_encode (s : List Char) : decode (encode s) = .ok s := by
  rw [decode_eq_ok_iff]
  unfold decodeLossy encode
  induction s with
  | nil => simp [scan, scanAfter]
  | cons c s ih =>
      obtain ⟨width, hscan⟩ := scan_encodeChar_append c (s.flatMap encodeChar)
      obtain ⟨hchars, htext⟩ := ih
      rw [List.flatMap_cons, hscan]
      exact ⟨List.forall_mem_cons.2 ⟨⟨c, width, rfl⟩, hchars⟩, congrArg (c :: ·) htext⟩

end Utf8

/-! ### Line ends -/

/-- A text without a carriage return keeps its line ends. -/
theorem unifyNewlines_of_notMem {s : List Char} (h : '\r' ∉ s) : unifyNewlines s = s := by
  induction s with
  | nil => rfl
  | cons c s ih =>
      rw [List.mem_cons, not_or] at h
      have hc : c ≠ '\r' := fun heq => h.1 heq.symm
      rw [unifyNewlines, ih h.2, if_neg hc]
      exact fun _ heq => absurd heq hc

/-- No carriage return is left. -/
theorem return_notMem_unifyNewlines (s : List Char) : '\r' ∉ unifyNewlines s := by
  fun_induction unifyNewlines s with
  | case1 => exact List.not_mem_nil
  | case2 s ih => simpa using ih
  | case3 c s _ ih =>
      split
      · simpa using ih
      · rename_i hc
        simpa [Ne.symm hc] using ih

end JitExplorer.Text
