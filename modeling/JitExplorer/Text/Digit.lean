/-
**Decimal digits.**

A decimal digit is a character of the Unicode category "decimal number" (Unicode 14).  Those
characters come in runs of ten, in the order of their values, so the table lists the zero of each
run and the value of a digit is its distance from the zero of its run.

Main definitions:

* `Text.digitValue?` — the value of a decimal digit, `none` on every other character;
* `Text.isDigit` — the characters that have a value;
* `Text.numeralValue` — the number written by a list of digits, most significant first;
* `Text.natDigits`, `Text.intDigits` — the canonical numeral of a number, in ASCII digits;
* `Text.natText`, `Text.intText` — the same as strings;
* `Text.maxDigits` — the number of digits that a numeral may have when a number is read from it, or
  when a number of any size is written as it.

The texts of numbers are total.  They stand where a number counts something that is there, as lines,
bytes or modules.  A number of any size is written by `numeral`, which may fail.

Main results:

* `Text.digitValue?_lt` — a digit is worth less than ten;
* `Text.numeralValue_natDigits` — reading the canonical numeral gives the number back;
* `Text.length_natDigits_numeralValue_le` — no numeral is shorter than the canonical one.
-/

set_option autoImplicit false

namespace JitExplorer.Text

/-! ### Single digits -/

/-- The zero of each run of ten decimal digits beyond ASCII. -/
def digitZeros : List Nat :=
  [0x660, 0x6F0, 0x7C0, 0x966, 0x9E6, 0xA66, 0xAE6, 0xB66, 0xBE6, 0xC66, 0xCE6, 0xD66, 0xDE6,
   0xE50, 0xED0, 0xF20, 0x1040, 0x1090, 0x17E0, 0x1810, 0x1946, 0x19D0, 0x1A80, 0x1A90, 0x1B50,
   0x1BB0, 0x1C40, 0x1C50, 0xA620, 0xA8D0, 0xA900, 0xA9D0, 0xA9F0, 0xAA50, 0xABF0, 0xFF10,
   0x104A0, 0x10D30, 0x11066, 0x110F0, 0x11136, 0x111D0, 0x112F0, 0x11450, 0x114D0, 0x11650,
   0x116C0, 0x11730, 0x118E0, 0x11950, 0x11C50, 0x11D50, 0x11DA0, 0x16A60, 0x16AC0, 0x16B50,
   0x1D7CE, 0x1D7D8, 0x1D7E2, 0x1D7EC, 0x1D7F6, 0x1E140, 0x1E2F0, 0x1E950, 0x1FBF0]

/-- The value of a decimal digit of any script. -/
def digitValue? (c : Char) : Option Nat :=
  if c.toNat < 0x80 then
    if '0'.toNat ≤ c.toNat ∧ c.toNat < '0'.toNat + 10 then some (c.toNat - '0'.toNat) else none
  else
    (digitZeros.find? fun first => first ≤ c.toNat && c.toNat < first + 10).map (c.toNat - ·)

/-- The characters that are decimal digits. -/
def isDigit (c : Char) : Bool :=
  (digitValue? c).isSome

/-- The ASCII digit of a value below ten. -/
def digitChar (d : Nat) : Char :=
  Char.ofNat ('0'.toNat + d)

theorem digitValue?_lt {c : Char} {d : Nat} (h : digitValue? c = some d) : d < 10 := by
  unfold digitValue? at h
  split at h
  · split at h
    · cases h
      omega
    · cases h
  · obtain ⟨first, hf, rfl⟩ := Option.map_eq_some_iff.1 h
    have hp := List.find?_some hf
    simp only [Bool.and_eq_true, decide_eq_true_eq] at hp
    omega

theorem digitValue?_digitChar {d : Nat} (h : d < 10) : digitValue? (digitChar d) = some d := by
  have hd : ∀ k < 10, digitValue? (digitChar k) = some k := by decide
  exact hd d h

theorem isDigit_digitChar {d : Nat} (h : d < 10) : isDigit (digitChar d) = true := by
  simp [isDigit, digitValue?_digitChar h]

/-! ### Numerals -/

/-- The number that a list of digits writes, most significant digit first. -/
def numeralValue (digits : List Char) : Nat :=
  digits.foldl (fun n c => 10 * n + (digitValue? c).getD 0) 0

/-- The digits of a number that has at most `fuel` of them. -/
def natDigitsUpTo : Nat → Nat → List Char
  | 0, _ => []
  | fuel + 1, n =>
      if n < 10 then [digitChar n] else natDigitsUpTo fuel (n / 10) ++ [digitChar (n % 10)]

/-- The canonical numeral of a number: ASCII digits without leading zeros. -/
def natDigits (n : Nat) : List Char :=
  natDigitsUpTo (n + 1) n

/-- The canonical numeral of an integer, with a minus sign in front of a negative one. -/
def intDigits : Int → List Char
  | .ofNat n => natDigits n
  | .negSucc n => '-' :: natDigits (n + 1)

/-- The canonical numeral of a natural number as a string. -/
def natText (n : Nat) : String :=
  String.ofList (natDigits n)

/-- The canonical numeral of an integer as a string. -/
def intText (n : Int) : String :=
  String.ofList (intDigits n)

/-- The number of digits that a numeral may have. -/
def maxDigits : Nat := 4300

@[simp] theorem numeralValue_append_singleton (ds : List Char) (c : Char) :
    numeralValue (ds ++ [c]) = 10 * numeralValue ds + (digitValue? c).getD 0 := by
  simp [numeralValue, List.foldl_append]

theorem numeralValue_natDigitsUpTo (fuel n : Nat) (h : n < fuel) :
    numeralValue (natDigitsUpTo fuel n) = n := by
  induction fuel generalizing n with
  | zero => omega
  | succ fuel ih =>
      unfold natDigitsUpTo
      split
      · rename_i hn
        simp [numeralValue, digitValue?_digitChar hn]
      · have hmod : n % 10 < 10 := Nat.mod_lt _ (by omega)
        rw [numeralValue_append_singleton, ih (n / 10) (by omega), digitValue?_digitChar hmod]
        simp only [Option.getD_some]
        omega

/-- Reading the canonical numeral gives the number back. -/
theorem numeralValue_natDigits (n : Nat) : numeralValue (natDigits n) = n :=
  numeralValue_natDigitsUpTo (n + 1) n (by omega)

theorem isDigit_of_mem_natDigitsUpTo (fuel n : Nat) :
    ∀ c ∈ natDigitsUpTo fuel n, isDigit c = true := by
  induction fuel generalizing n with
  | zero => simp [natDigitsUpTo]
  | succ fuel ih =>
      intro c hc
      unfold natDigitsUpTo at hc
      split at hc
      · rename_i hn
        simp only [List.mem_singleton] at hc
        subst hc
        exact isDigit_digitChar hn
      · simp only [List.mem_append, List.mem_singleton] at hc
        rcases hc with hc | rfl
        · exact ih _ c hc
        · exact isDigit_digitChar (Nat.mod_lt _ (by omega))

/-- The canonical numeral consists of digits. -/
theorem isDigit_of_mem_natDigits {n : Nat} {c : Char} (h : c ∈ natDigits n) : isDigit c = true :=
  isDigit_of_mem_natDigitsUpTo _ _ c h

/-- A character that is no digit does not occur in a canonical numeral. -/
theorem notMem_natDigits {c : Char} (hc : isDigit c = false) (n : Nat) : c ∉ natDigits n := by
  intro h
  rw [isDigit_of_mem_natDigits h] at hc
  cases hc

theorem notMem_intDigits {c : Char} (hc : isDigit c = false) (hminus : c ≠ '-') (n : Int) :
    c ∉ intDigits n := by
  cases n with
  | ofNat n => exact notMem_natDigits hc n
  | negSucc n => simpa [intDigits, hminus] using notMem_natDigits hc (n + 1)

/-- The canonical numeral has at least one digit. -/
theorem natDigits_ne_nil (n : Nat) : natDigits n ≠ [] := by
  unfold natDigits natDigitsUpTo
  split <;> simp

/-! ### Lengths of numerals -/

theorem digitValue?_getD_lt (c : Char) : (digitValue? c).getD 0 < 10 := by
  cases h : digitValue? c with
  | none => simp
  | some d => simpa using digitValue?_lt h

/-- The number of a numeral has at most as many digits as the numeral. -/
theorem length_natDigitsUpTo_numeralValue_le (fuel : Nat) {digits : List Char} (h : digits ≠ []) :
    (natDigitsUpTo fuel (numeralValue digits)).length ≤ digits.length := by
  induction fuel generalizing digits with
  | zero => exact Nat.zero_le _
  | succ fuel ih =>
      -- The last digit of the numeral is what dividing by ten takes off.
      obtain ⟨front, c, rfl⟩ : ∃ front c, digits = front ++ [c] :=
        ⟨_, _, (List.dropLast_concat_getLast h).symm⟩
      have hc := digitValue?_getD_lt c
      rw [numeralValue_append_singleton, natDigitsUpTo]
      split
      · simp
      · rename_i hten
        have hfront : front ≠ [] := by
          rintro rfl
          exact hten (by simpa [numeralValue] using hc)
        have hdiv : (10 * numeralValue front + (digitValue? c).getD 0) / 10 =
            numeralValue front := by
          omega
        rw [hdiv, List.length_append, List.length_append]
        exact Nat.add_le_add_right (ih hfront) 1

/-- A numeral writes a number with no more digits than it has. -/
theorem numeralValue_lt_pow (digits : List Char) :
    numeralValue digits < Nat.pow 10 digits.length := by
  -- The digits in front of a numeral count for one more than they say.
  have hfront : ∀ n, digits.foldl (fun n c => 10 * n + (digitValue? c).getD 0) n <
      (n + 1) * Nat.pow 10 digits.length := by
    induction digits with
    | nil => simp
    | cons c digits ih =>
        intro n
        have hc := digitValue?_getD_lt c
        have hstep : 10 * n + (digitValue? c).getD 0 + 1 ≤ (n + 1) * 10 := by omega
        calc _ < (10 * n + (digitValue? c).getD 0 + 1) * Nat.pow 10 digits.length := ih _
          _ ≤ (n + 1) * 10 * Nat.pow 10 digits.length := Nat.mul_le_mul_right _ hstep
          _ = (n + 1) * (Nat.pow 10 digits.length * 10) := by rw [Nat.mul_assoc, Nat.mul_comm 10]
  simpa [numeralValue] using hfront 0

/-- A number that is as large as a power of ten has more digits than that one has zeros. -/
theorem lt_length_natDigits {k n : Nat} (h : Nat.pow 10 k ≤ n) : k < (natDigits n).length := by
  have hn := numeralValue_lt_pow (natDigits n)
  rw [numeralValue_natDigits] at hn
  exact (Nat.pow_lt_pow_iff_right (by decide)).1 (Nat.lt_of_le_of_lt h hn)

/-- No numeral is shorter than the canonical one of the same number. -/
theorem length_natDigits_numeralValue_le {digits : List Char} (h : digits ≠ []) :
    (natDigits (numeralValue digits)).length ≤ digits.length :=
  length_natDigitsUpTo_numeralValue_le _ h

end JitExplorer.Text
