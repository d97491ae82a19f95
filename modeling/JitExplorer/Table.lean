/-
**Tables.**

A table gives a value to some keys.  A key that is set again keeps its place.

Main definitions:

* `Table`, `Table.get?`, `Table.set`, `Table.erase`, `Table.keys` — tables and what is done with
  them.

Main results:

* `Table.get?_set_self`, `Table.get?_set_of_ne`, `Table.get?_erase_self`, `Table.get?_erase_of_ne` —
  what a table gives after a change;
* `Table.keys_set`, `Table.keys_erase` — which keys it has after a change.
-/

set_option autoImplicit false

namespace JitExplorer

/-- A table: keys with their values, in the order in which they were set first. -/
structure Table (α : Type) where
  entries : List (String × α) := []
  deriving DecidableEq, Repr

namespace Table

variable {α : Type}

/-- The value of a key among entries. -/
def find? (key : String) : List (String × α) → Option α
  | [] => none
  | (other, value) :: entries => if other = key then some value else find? key entries

/-- The value of a key. -/
def get? (table : Table α) (key : String) : Option α :=
  find? key table.entries

/-- A key is set among entries. -/
def put (key : String) (value : α) : List (String × α) → List (String × α)
  | [] => [(key, value)]
  | (other, old) :: entries =>
      if other = key then (key, value) :: entries else (other, old) :: put key value entries

/-- A key is set. -/
def set (table : Table α) (key : String) (value : α) : Table α :=
  ⟨put key value table.entries⟩

/-- A key is taken out. -/
def erase (table : Table α) (key : String) : Table α :=
  ⟨table.entries.filter fun entry => entry.1 != key⟩

/-- The keys, in the order in which they were set first. -/
def keys (table : Table α) : List String :=
  table.entries.map Prod.fst

@[simp] theorem get?_empty (key : String) : (⟨[]⟩ : Table α).get? key = none := rfl

theorem find?_put (key other : String) (value : α) (entries : List (String × α)) :
    find? other (put key value entries) =
      if key = other then some value else find? other entries := by
  induction entries with
  | nil => simp [put, find?]
  | cons entry entries ih =>
      obtain ⟨k, v⟩ := entry
      by_cases hk : k = key
      · subst hk
        by_cases ho : k = other <;> simp [put, find?, ho]
      · by_cases ho : k = other
        · subst ho
          simp [put, find?, hk, Ne.symm hk]
        · simp [put, find?, hk, ho, ih]

theorem find?_filter (key other : String) (entries : List (String × α)) :
    find? other (entries.filter fun entry => entry.1 != key) =
      if key = other then none else find? other entries := by
  induction entries with
  | nil => simp [find?]
  | cons entry entries ih =>
      obtain ⟨k, v⟩ := entry
      by_cases hk : k = key
      · subst hk
        by_cases ho : k = other
        · simpa [ho] using ih
        · simp [find?, ih, ho]
      · by_cases ho : k = other
        · subst ho
          simp [find?, hk, Ne.symm hk]
        · simp [find?, hk, ho, ih]

theorem get?_set (table : Table α) (key other : String) (value : α) :
    (table.set key value).get? other = if key = other then some value else table.get? other :=
  find?_put key other value table.entries

theorem get?_erase (table : Table α) (key other : String) :
    (table.erase key).get? other = if key = other then none else table.get? other :=
  find?_filter key other table.entries

@[simp] theorem get?_set_self (table : Table α) (key : String) (value : α) :
    (table.set key value).get? key = some value := by
  simp [get?_set]

theorem get?_set_of_ne (table : Table α) {key other : String} (value : α) (h : key ≠ other) :
    (table.set key value).get? other = table.get? other := by
  simp [get?_set, h]

@[simp] theorem get?_erase_self (table : Table α) (key : String) :
    (table.erase key).get? key = none := by
  simp [get?_erase]

theorem get?_erase_of_ne (table : Table α) {key other : String} (h : key ≠ other) :
    (table.erase key).get? other = table.get? other := by
  simp [get?_erase, h]

theorem map_fst_put (key : String) (value : α) (entries : List (String × α)) :
    (put key value entries).map Prod.fst =
      if key ∈ entries.map Prod.fst then entries.map Prod.fst
        else entries.map Prod.fst ++ [key] := by
  induction entries with
  | nil => rfl
  | cons entry entries ih =>
      obtain ⟨k, v⟩ := entry
      by_cases hk : k = key
      · simp [put, hk]
      · simp only [put, hk, if_false, List.map_cons, ih, List.mem_cons, Ne.symm hk, false_or]
        split <;> rfl

/-- A key that is set comes last, unless it keeps its place. -/
theorem keys_set (table : Table α) (key : String) (value : α) :
    (table.set key value).keys =
      if key ∈ table.keys then table.keys else table.keys ++ [key] :=
  map_fst_put key value table.entries

theorem keys_erase (table : Table α) (key : String) :
    (table.erase key).keys = table.keys.filter (· != key) := by
  simp only [keys, erase, List.filter_map]
  rfl

end Table

end JitExplorer
