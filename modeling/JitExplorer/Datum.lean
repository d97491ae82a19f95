/-
**Data of any type.**

Some data are handed around as they are: the settings of a compiler, the options that an editor
sends, the status with which a program asks to be ended.  A datum is absent, a truth value, a
number, a text, a sequence of data, or a table of named data.

A datum can be shown.  A text is shown as it is when it stands alone, and between quotes when it
stands inside of other data.

Main definitions:

* `Datum`, `Datum.isOn`, `Datum.text?` — data, whether a datum switches something on, and the text
  that it may be;
* `Datum.quoted`, `Datum.shown` — a datum as it is shown inside of other data, and alone;
* `Datum.same` — comparing data.

Main results:

* `Datum.same_eq_true_iff` — comparing data decides whether they are equal.
-/

import JitExplorer.Text.Digit
import JitExplorer.Text.Quoted

set_option autoImplicit false

namespace JitExplorer

/-- A datum. -/
inductive Datum where
  | absent
  | flag (value : Bool)
  | number (value : Int)
  | text (value : String)
  | sequence (items : List Datum)
  | table (entries : List (String × Datum))
  deriving Inhabited, Repr

namespace Datum

/-- A datum switches something on: it is neither absent, false, zero nor empty. -/
def isOn : Datum → Bool
  | .absent => false
  | .flag value => value
  | .number value => value != 0
  | .text value => !value.isEmpty
  | .sequence items => !items.isEmpty
  | .table entries => !entries.isEmpty

/-- The text that a datum is, if it is one. -/
def text? : Datum → Option String
  | .text value => some value
  | _ => none

/-! ### Showing -/

mutual

/-- A datum as it is shown inside of other data. -/
def quoted : Datum → String
  | .absent => "None"
  | .flag value => if value then "True" else "False"
  | .number value => Text.intText value
  | .text value => Text.quoted value
  | .sequence items => "[" ++ Text.join ", " (quotedItems items) ++ "]"
  | .table entries => "\x7b" ++ Text.join ", " (quotedEntries entries) ++ "\x7d"

/-- Data as they are shown inside of other data. -/
def quotedItems : List Datum → List String
  | [] => []
  | item :: items => quoted item :: quotedItems items

/-- Named data as they are shown inside of other data. -/
def quotedEntries : List (String × Datum) → List String
  | [] => []
  | (name, value) :: entries => (Text.quoted name ++ ": " ++ quoted value) :: quotedEntries entries

end

/-- A datum as it is shown alone. -/
def shown : Datum → String
  | .text value => value
  | datum => quoted datum

@[simp] theorem shown_text (value : String) : (text value).shown = value := rfl

/-! ### Comparing -/

mutual

/-- Two data are the same. -/
def same : Datum → Datum → Bool
  | .absent, .absent => true
  | .flag a, .flag b => a == b
  | .number a, .number b => a == b
  | .text a, .text b => a == b
  | .sequence xs, .sequence ys => sameItems xs ys
  | .table xs, .table ys => sameEntries xs ys
  | _, _ => false

/-- Two lists of data are the same. -/
def sameItems : List Datum → List Datum → Bool
  | [], [] => true
  | x :: xs, y :: ys => same x y && sameItems xs ys
  | _, _ => false

/-- Two lists of named data are the same. -/
def sameEntries : List (String × Datum) → List (String × Datum) → Bool
  | [], [] => true
  | (m, x) :: xs, (n, y) :: ys => m == n && same x y && sameEntries xs ys
  | _, _ => false

end

mutual

theorem same_eq_true_iff : (a b : Datum) → (same a b = true ↔ a = b)
  | .absent, b => by cases b <;> simp [same]
  | .flag a, b => by cases b <;> simp [same]
  | .number a, b => by cases b <;> simp [same]
  | .text a, b => by cases b <;> simp [same]
  | .sequence xs, b => by
      cases b with
      | sequence ys => simp [same, sameItems_eq_true_iff xs ys]
      | _ => simp [same]
  | .table xs, b => by
      cases b with
      | table ys => simp [same, sameEntries_eq_true_iff xs ys]
      | _ => simp [same]

theorem sameItems_eq_true_iff : (xs ys : List Datum) → (sameItems xs ys = true ↔ xs = ys)
  | [], ys => by cases ys <;> simp [sameItems]
  | x :: xs, ys => by
      cases ys with
      | nil => simp [sameItems]
      | cons y ys => simp [sameItems, same_eq_true_iff x y, sameItems_eq_true_iff xs ys]

theorem sameEntries_eq_true_iff :
    (xs ys : List (String × Datum)) → (sameEntries xs ys = true ↔ xs = ys)
  | [], ys => by cases ys <;> simp [sameEntries]
  | (m, x) :: xs, ys => by
      cases ys with
      | nil => simp [sameEntries]
      | cons y ys =>
          obtain ⟨n, y⟩ := y
          simp [sameEntries, same_eq_true_iff x y, sameEntries_eq_true_iff xs ys]

end

instance : DecidableEq Datum := fun a b => decidable_of_iff _ (same_eq_true_iff a b)

end Datum

end JitExplorer
