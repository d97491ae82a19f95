/-
**Acts.**

An act changes a state and either succeeds or fails; the change stays in either case.

Main definitions:

* `Act` — acts, with `Act.pure` and `Act.bind`;
* `Act.fail`, `Act.ofExcept`, `Act.modify`, `Act.look` — single steps;
* `Act.always` — an act that is followed by another one in any case.

Main results:

* `Act.pure_apply`, `Act.bind_apply`, `Act.modify_apply`, `Act.look_apply` — acts seen as functions;
* `Act.bind_ok`, `Act.bind_error`, `Act.exists_of_bind_ok` — an act that follows another one happens
  exactly if that one succeeds;
* `Act.bind_assoc`, `Act.pure_bind` — it does not matter how acts in a row are grouped;
* `Act.bind_pure_apply` — an act whose outcome is only worked on;
* `Act.always_snd` — what an act and the one that follows it in any case leave behind.
-/

import JitExplorer.Failure

set_option autoImplicit false

namespace JitExplorer

/-- An act: its outcome and the state that it leaves behind. -/
def Act (ω α : Type) : Type :=
  ω → Except Failure α × ω

namespace Act

variable {ω α β : Type}

/-- The act that does nothing. -/
def pure (a : α) : Act ω α :=
  fun w => (.ok a, w)

/-- An act that follows another one if that one succeeds. -/
def bind (act : Act ω α) (next : α → Act ω β) : Act ω β := fun w =>
  match act w with
  | (.ok a, w) => next a w
  | (.error failure, w) => (.error failure, w)

instance : Monad (Act ω) where
  pure := Act.pure
  bind := Act.bind

/-- The act that fails. -/
def fail (failure : Failure) : Act ω α :=
  fun w => (.error failure, w)

/-- The act whose outcome is known. -/
def ofExcept (result : Except Failure α) : Act ω α :=
  fun w => (result, w)

/-- The act that changes the state. -/
def modify (f : ω → ω) : Act ω Unit :=
  fun w => (.ok (), f w)

/-- The act that looks at the state. -/
def look (f : ω → α) : Act ω α :=
  fun w => (.ok (f w), w)

/-- An act that is followed by another one in any case.  A failure of the second one comes first. -/
def always (act : Act ω α) (last : Act ω Unit) : Act ω α := fun w =>
  match act w with
  | (result, w) =>
      match last w with
      | (.ok (), w) => (result, w)
      | (.error failure, w) => (.error failure, w)

@[simp] theorem pure_apply (a : α) (w : ω) : (Pure.pure a : Act ω α) w = (.ok a, w) := rfl

theorem bind_apply (act : Act ω α) (next : α → Act ω β) (w : ω) :
    (act >>= next) w = act.bind next w := rfl

@[simp] theorem modify_apply (f : ω → ω) (w : ω) : modify f w = (.ok (), f w) := rfl

@[simp] theorem look_apply (f : ω → α) (w : ω) : look f w = (.ok (f w), w) := rfl

theorem bind_ok {act : Act ω α} {w after : ω} {a : α} (next : α → Act ω β)
    (h : act w = (.ok a, after)) : act.bind next w = next a after := by
  simp [bind, h]

theorem bind_error {act : Act ω α} {w after : ω} {failure : Failure} (next : α → Act ω β)
    (h : act w = (.error failure, after)) : act.bind next w = (.error failure, after) := by
  simp [bind, h]

/-- Acts in a row succeed only if each of them does. -/
theorem exists_of_bind_ok {act : Act ω α} {next : α → Act ω β} {w after : ω} {b : β}
    (h : (act >>= next) w = (.ok b, after)) :
    ∃ a between, act w = (.ok a, between) ∧ next a between = (.ok b, after) := by
  rw [bind_apply] at h
  rcases hact : act w with ⟨failure | a, between⟩
  · rw [bind_error next hact] at h
    cases h
  · rw [bind_ok next hact] at h
    exact ⟨a, between, rfl, h⟩

/-- Acts in a row fail if one of them does, behind others that succeed. -/
theorem fails_of_bind_error {act : Act ω α} {next : α → Act ω β} {w after : ω} {failure : Failure}
    (h : (act >>= next) w = (.error failure, after)) :
    act w = (.error failure, after) ∨
      ∃ a between, act w = (.ok a, between) ∧ next a between = (.error failure, after) := by
  rw [bind_apply] at h
  rcases hact : act w with ⟨refused | a, between⟩
  · rw [bind_error next hact] at h
    cases h
    exact .inl rfl
  · rw [bind_ok next hact] at h
    exact .inr ⟨a, between, rfl, h⟩

theorem bind_assoc {γ : Type} (act : Act ω α) (next : α → Act ω β) (last : β → Act ω γ) :
    act >>= next >>= last = act >>= fun a => next a >>= last := by
  funext w
  simp only [bind_apply, bind]
  rcases act w with ⟨_ | _, after⟩
  · rfl
  · rfl

/-- Working on the outcome of an act changes neither its failure nor what it leaves behind. -/
theorem bind_pure_apply (act : Act ω α) (f : α → β) (w : ω) :
    (act >>= fun a => Pure.pure (f a)) w = ((act w).1.map f, (act w).2) := by
  rw [bind_apply]
  unfold bind
  rcases act w with ⟨_ | _, after⟩
  · rfl
  · rfl

theorem pure_bind (a : α) (next : α → Act ω β) : (Pure.pure a : Act ω α) >>= next = next a := rfl

/-- The state that an act and its follower leave behind is the follower's. -/
theorem always_snd (act : Act ω α) (last : Act ω Unit) (w : ω) :
    (act.always last w).2 = (last (act w).2).2 := by
  unfold always
  rcases act w with ⟨result, after⟩
  rcases h : last after with ⟨_ | _, _⟩ <;> simp [h]

@[simp] theorem modify_bind_apply (f : ω → ω) (next : Unit → Act ω β) (w : ω) :
    (modify f >>= next) w = next () (f w) := rfl

@[simp] theorem look_bind_apply (f : ω → α) (next : α → Act ω β) (w : ω) :
    (look f >>= next) w = next (f w) w := rfl

@[simp] theorem ofExcept_ok_bind_apply (a : α) (next : α → Act ω β) (w : ω) :
    (ofExcept (.ok a) >>= next) w = next a w := rfl

@[simp] theorem ofExcept_error_bind_apply (failure : Failure) (next : α → Act ω β) (w : ω) :
    (ofExcept (.error failure) >>= next) w = (.error failure, w) := rfl

end Act

end JitExplorer
