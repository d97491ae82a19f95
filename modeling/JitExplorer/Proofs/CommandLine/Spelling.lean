/-
**How options are spelled.**

A token is an option exactly if it is spelled like one, or if it is the spelling of an option with
an equals sign and a value behind it.  Runs of letters that start with the help flag are the only
other tokens that are neither arguments nor unknown.

Main definitions:

* `CommandLine.Switch.spellings`, `CommandLine.Key.attachedToken` — the tokens that are options.

Main results:

* `CommandLine.classify_of_mem_spellings`, `CommandLine.classify_attachedToken` — what is spelled so
  is the option;
* `CommandLine.classify_cases`, `CommandLine.spelled_of_classify` — nothing else is.
-/

import JitExplorer.CommandLine
import Mathlib.Data.List.TakeWhile

set_option autoImplicit false

namespace JitExplorer.CommandLine

/-! ### Spellings -/

/-- A key with a value attached to it, as one token. -/
def Key.attachedToken (key : Key) (value : String) : String :=
  key.spelling ++ "=" ++ value

/-- The spelling of the verbose flag. -/
def verboseToken : String := "--verbose"

/-- The spellings of an option. -/
def Switch.spellings : Switch → List (List Char)
  | .key k => [k.spelling.toList]
  | .flag .verbose => [verboseToken.toList]
  | .flag .help => [helpLetter, "--help".toList]

theorem switchOf?_eq_some_iff (s : List Char) (switch : Switch) :
    switchOf? s = some switch ↔ s ∈ switch.spellings := by
  constructor
  · intro h
    unfold switchOf? at h
    split_ifs at h with hformat hdebugInfo hoptimize hverbose hhelp
    · cases h
      exact hformat ▸ by decide
    · cases h
      exact hdebugInfo ▸ by decide
    · cases h
      exact hoptimize ▸ by decide
    · cases h
      exact hverbose ▸ by decide
    · cases h
      obtain rfl | rfl : s = helpLetter ∨ s = "--help".toList := by
        simpa only [Bool.or_eq_true, decide_eq_true_eq] using hhelp
      all_goals decide
  · intro h
    rcases switch with (_ | _ | _) | (_ | _)
    all_goals
      simp only [Switch.spellings, List.mem_cons, List.not_mem_nil, or_false] at h
      rcases h with rfl | rfl <;> decide

/-- An option is spelled with a dash in front, and without an equals sign. -/
theorem Switch.dash_equals_of_mem_spellings {s : List Char} {switch : Switch}
    (h : s ∈ switch.spellings) : s.head? = some '-' ∧ '=' ∉ s := by
  rcases switch with (_ | _ | _) | (_ | _)
  all_goals
    simp only [Switch.spellings, List.mem_cons, List.not_mem_nil, or_false] at h
    rcases h with rfl | rfl <;> decide

/-- A value is attached to what stands in front of the first equals sign. -/
theorem attachedSwitch?_eq_some_iff (s : List Char) (token : Token) :
    attachedSwitch? s = some token ↔ ∃ front value, '=' ∉ front ∧ s = front ++ '=' :: value ∧
      (if front = helpLetter then some (.letters value)
        else (switchOf? front).map (Switch.token (some value))) = some token := by
  have hsplit : s.takeWhile (· != '=') ++ s.dropWhile (· != '=') = s :=
    List.takeWhile_append_dropWhile
  constructor
  · intro h
    unfold attachedSwitch? at h
    split at h
    · cases h
    · rename_i c value hrest
      have hc : c = '=' := by
        have hhead := List.head?_dropWhile_not (· != '=') s
        rw [hrest] at hhead
        simpa using hhead
      subst hc
      refine ⟨s.takeWhile (· != '='), value, ?_, ?_, h⟩
      · intro hmem
        simpa using List.mem_takeWhile_imp hmem
      · rw [← hrest, hsplit]
  · rintro ⟨front, value, hfront, rfl, h⟩
    have hpos : ∀ c ∈ front, (c != '=') = true := by
      intro c hc
      simpa using fun heq : c = '=' => hfront (heq ▸ hc)
    simp only [attachedSwitch?, List.takeWhile_append_of_pos hpos,
      List.dropWhile_append_of_pos hpos]
    simpa using h

/-- An option that is spelled out is one. -/
theorem classify_of_mem_spellings {s : List Char} (switch : Switch) (h : s ∈ switch.spellings) :
    classify s = switch.token none := by
  have hswitch := (switchOf?_eq_some_iff s switch).2 h
  cases s with
  | nil => simpa using (Switch.dash_equals_of_mem_spellings h).1
  | cons c s =>
      obtain rfl : c = '-' := by simpa using (Switch.dash_equals_of_mem_spellings h).1
      simp only [classify, if_true, hswitch]

/-- A key with a value attached to it is one. -/
theorem classify_key_append (key : Key) (value : List Char) :
    classify (key.spelling.toList ++ '=' :: value) = .key key (some value) := by
  have hspelling : key.spelling.toList ∈ (Switch.key key).spellings := List.mem_singleton.2 rfl
  obtain ⟨hdash, hequals⟩ := Switch.dash_equals_of_mem_spellings hspelling
  have hswitch : switchOf? (key.spelling.toList ++ '=' :: value) = none := by
    refine Option.eq_none_iff_forall_ne_some.2 fun switch hsome => ?_
    exact (Switch.dash_equals_of_mem_spellings ((switchOf?_eq_some_iff _ _).1 hsome)).2 (by simp)
  have hattached : attachedSwitch? (key.spelling.toList ++ '=' :: value) =
      some (.key key (some value)) := by
    refine (attachedSwitch?_eq_some_iff _ _).2 ⟨_, value, hequals, rfl, ?_⟩
    rw [(switchOf?_eq_some_iff _ _).2 hspelling, if_neg (by cases key <;> decide)]
    rfl
  obtain ⟨c, s, hs⟩ : ∃ c s, key.spelling.toList = c :: s :=
    List.exists_cons_of_ne_nil fun hnil => by simp [hnil] at hdash
  obtain rfl : c = '-' := by simpa [hs] using hdash
  rw [hs, List.cons_append] at hswitch hattached ⊢
  simp only [classify, if_true, hswitch, hattached]

/-- Different options are different tokens. -/
theorem Switch.token_inj {switch other : Switch} {attached value : Option (List Char)} :
    switch.token attached = other.token value ↔ switch = other ∧ attached = value := by
  cases switch <;> cases other <;> simp [Switch.token]

/-- **What a token can be:** an option, an option with a value attached to it, a run of letters, an
argument, or something unknown that starts with a dash. -/
theorem classify_cases (s : List Char) :
    (∃ switch : Switch, s ∈ switch.spellings ∧ classify s = switch.token none) ∨
    (∃ front value, ∃ switch : Switch, front ∈ switch.spellings ∧ s = front ++ '=' :: value ∧
      classify s = switch.token (some value)) ∨
    (∃ rest, classify s = .letters rest) ∨ classify s = .argument ∨ classify s = .unknown := by
  cases s with
  | nil => exact .inr (.inr (.inr (.inl rfl)))
  | cons c s =>
      by_cases hdash : c = '-'
      · simp only [classify, hdash, if_true]
        split
        · rename_i switch hswitch
          exact .inl ⟨switch, (switchOf?_eq_some_iff _ _).1 hswitch, rfl⟩
        · rename_i token _ hattached
          obtain ⟨front, value, -, hs, htoken⟩ := (attachedSwitch?_eq_some_iff _ _).1 hattached
          split at htoken
          · cases htoken
            exact .inr (.inr (.inl ⟨value, rfl⟩))
          · obtain ⟨switch, hswitch, rfl⟩ := Option.map_eq_some_iff.1 htoken
            exact .inr (.inl ⟨front, value, switch, (switchOf?_eq_some_iff _ _).1 hswitch, hs, rfl⟩)
        · rename_i rest _ _ _
          exact .inr (.inr (.inl ⟨rest, rfl⟩))
        · unfold classifyDashed
          split
          · exact .inr (.inr (.inr (.inl rfl)))
          · exact .inr (.inr (.inr (.inr rfl)))
      · exact .inr (.inr (.inr (.inl (classify_of_ne_dash s hdash))))

/-- A token is an option only as the option is spelled, or with a value attached to that. -/
theorem spelled_of_classify {s : List Char} (switch : Switch) {attached : Option (List Char)}
    (h : classify s = switch.token attached) :
    ∃ front ∈ switch.spellings, s = front ++ attached.elim [] ('=' :: ·) := by
  rcases classify_cases s with ⟨other, hmem, hother⟩ | ⟨front, value, other, hmem, hs, hother⟩ |
    ⟨rest, hletters⟩ | hargument | hunknown
  · obtain ⟨rfl, rfl⟩ := Switch.token_inj.1 (hother.symm.trans h)
    exact ⟨s, hmem, (List.append_nil s).symm⟩
  · obtain ⟨rfl, rfl⟩ := Switch.token_inj.1 (hother.symm.trans h)
    exact ⟨front, hmem, hs⟩
  · cases switch <;> cases hletters.symm.trans h
  · cases switch <;> cases hargument.symm.trans h
  · cases switch <;> cases hunknown.symm.trans h

theorem classify_attachedToken (key : Key) (value : String) :
    classify (key.attachedToken value).toList = .key key (some value.toList) := by
  rw [← classify_key_append]
  simp [Key.attachedToken]

theorem ne_dashes_of_classify {s : String} {token : Token} (h : classify s.toList = token)
    (hne : token ≠ .unknown) : s ≠ dashes := by
  rintro rfl
  exact hne (h.symm.trans (by decide))

/-- A key is a token as it is spelled. -/
theorem eq_spelling_of_classify {t : String} {key : Key} (h : classify t.toList = .key key none) :
    t = key.spelling := by
  obtain ⟨front, hfront, ht⟩ := spelled_of_classify (.key key) h
  obtain rfl := List.mem_singleton.1 hfront
  exact String.toList_injective (by simpa using ht)

/-- A key with a value is a token with the value attached to the key. -/
theorem eq_attachedToken_of_classify {t : String} {key : Key} {value : List Char}
    (h : classify t.toList = .key key (some value)) :
    t = key.attachedToken (String.ofList value) := by
  obtain ⟨front, hfront, ht⟩ := spelled_of_classify (.key key) h
  obtain rfl := List.mem_singleton.1 hfront
  exact String.toList_injective (by simpa [Key.attachedToken] using ht)

/-- The verbose flag is a token as it is spelled. -/
theorem eq_verboseToken_of_classify {t : String} (h : classify t.toList = .flag .verbose none) :
    t = verboseToken := by
  obtain ⟨front, hfront, ht⟩ := spelled_of_classify (.flag .verbose) h
  obtain rfl := List.mem_singleton.1 hfront
  exact String.toList_injective (by simpa using ht)

end JitExplorer.CommandLine
