/-
**Which command lines are answered.**

A command line is answered with a request, unless it asks for a run and the last value of the key
for optimization is a double dash that is attached to it.  A double dash counts as no value, and
only that key needs one: without a value of theirs, the debug information is the default one, and
the format is an empty sequence, which is no text.

Apart from this the answer is consistent.  It is a request for a run exactly if it does not ask for
help and nothing is complained about, and what it names stands in the command line, but for the
default format.  The complaints are printed, and one of three things follows.

Main definitions:

* `CommandLine.IsRow` — the command lines that are rows of items with two positional tokens;
* `CommandLine.LacksValue` — such a command line gives a double dash to a key at last;
* `CommandLine.Request.arguments?`, `CommandLine.Request.asksForHelp` — the parts of a request;
* `CommandLine.Follows` — what is printed for a request, and how it goes on.

Main results:

* `CommandLine.parse_row` — what a row of items is answered with;
* `CommandLine.exists_row_of_parse` — whatever is neither help nor rejected is a row of items;
* `CommandLine.parse_eq_error_iff` — the command lines that are not answered;
* `CommandLine.parse_answered` — **which command lines are answered, and with what.**
-/

import JitExplorer.Proofs.CommandLine.Grammar

set_option autoImplicit false

namespace JitExplorer.CommandLine

/-! ### Rows of items with two positional tokens -/

/-- The tokens are a row of items, of which two are positional tokens. -/
structure IsRow (tokens : List String) (items : List Item) (inputFile outputPath : String) :
    Prop where
  proper : ∀ item ∈ items, item.IsProper
  spelled : dropLeadingDashes tokens = items.flatMap Item.tokens
  named : positionals items = [inputFile, outputPath]

/-- **A key is left without a value:** a command line that asks for a run gives it a double dash at
last. -/
def LacksValue (key : Key) (tokens : List String) : Prop :=
  ∃ items inputFile outputPath, IsRow tokens items inputFile outputPath ∧
    lastValue key items = some dashes

theorem mem_of_mem_dropLeadingDashes {t : String} {tokens : List String}
    (h : t ∈ dropLeadingDashes tokens) : t ∈ tokens := by
  cases tokens with
  | nil => exact h
  | cons first tokens =>
      rw [dropLeadingDashes] at h
      split at h
      · exact List.mem_cons_of_mem first h
      · exact h

theorem valueOf_of_ne_dashes {value : String} (h : value ≠ dashes) : valueOf value = some value :=
  if_neg h

section Row

variable {tokens : List String} {items : List Item} {inputFile outputPath : String}

/-- **What a row of items is answered with.**  Only the value of the key for optimization has to be
there. -/
theorem parse_row (h : IsRow tokens items inputFile outputPath) :
    parse tokens =
      (readOptimize ((lastValue .optimize items).map valueOf)).map fun optimize =>
        .run
          { format := readFormat ((lastValue .format items).map valueOf)
            debugInfo := readDebugInfo ((lastValue .debugInfo items).map valueOf)
            optimize
            verbose := items.contains .verbose
            inputFile
            outputPath } := by
  have hvalue : ∀ key : Key, (items.foldl Reading.take {}).value key =
      (lastValue key items).map valueOf := by
    intro key
    have hnone : Reading.value {} key = none := by cases key <;> rfl
    rw [value_items, hnone, Option.or_none]
  have hformat : (items.foldl Reading.take {}).format = _ := hvalue .format
  have hdebugInfo : (items.foldl Reading.take {}).debugInfo = _ := hvalue .debugInfo
  have hoptimize : (items.foldl Reading.take {}).optimize = _ := hvalue .optimize
  have hhelp : (items.foldl Reading.take {}).help = false := help_items items {}
  have hverbose : (items.foldl Reading.take {}).verbose = items.contains .verbose := by
    simp [verbose_items]
  have hrest : (items.foldl Reading.take {}).rest = [inputFile, outputPath] :=
    (rest_items items {}).trans h.named
  have hpositional : ∀ t ∈ [inputFile, outputPath], isPositional t = true := by
    rw [← h.named]
    exact fun t => isPositional_of_mem_positionals h.proper
  have hunknown : [inputFile, outputPath].filter (fun t => !isPositional t) = [] :=
    List.filter_eq_nil_iff.2 fun t ht => by simp [hpositional t ht]
  have hread : readTokens {} (dropLeadingDashes tokens) = .ok (items.foldl Reading.take {}) := by
    rw [h.spelled, readTokens_items h.proper]
  simp only [parse, hread, Reading.request, hhelp, hrest, hunknown, hformat, hdebugInfo, hoptimize,
    hverbose, List.filter_eq_self.2 hpositional, List.map_nil, Bool.false_eq_true, if_false]

/-- The positional tokens stand in the command line. -/
theorem IsRow.mem_of_mem_tokens (h : IsRow tokens items inputFile outputPath) {item : Item}
    (hitem : item ∈ items) {t : String} (ht : t ∈ item.tokens) : t ∈ tokens := by
  refine mem_of_mem_dropLeadingDashes ?_
  rw [h.spelled]
  exact List.mem_flatMap.2 ⟨item, hitem, ht⟩

theorem IsRow.mem_of_mem_positionals (h : IsRow tokens items inputFile outputPath) {t : String}
    (ht : t ∈ positionals items) : t ∈ tokens := by
  obtain ⟨item, hitem, hsome⟩ := List.mem_filterMap.1 ht
  cases item with
  | positional token =>
      cases hsome
      exact h.mem_of_mem_tokens hitem (List.mem_singleton_self _)
  | verbose | attached _ _ | separate _ _ => cases hsome

/-- The last value of a key stands in the command line, alone or attached to the key. -/
theorem IsRow.mem_of_lastValue (h : IsRow tokens items inputFile outputPath) {key : Key}
    {value : String} (hvalue : lastValue key items = some value) :
    value ∈ tokens ∨ key.attachedToken value ∈ tokens := by
  obtain ⟨item, hitem, hsome⟩ := List.mem_filterMap.1 (List.mem_of_getLast? hvalue)
  cases item with
  | positional token | verbose => cases hsome
  | attached other found =>
      obtain ⟨rfl, rfl⟩ : other = key ∧ found = value := by simpa [Item.value?] using hsome
      exact .inr (h.mem_of_mem_tokens hitem (List.mem_singleton_self _))
  | separate other found =>
      obtain ⟨rfl, rfl⟩ : other = key ∧ found = value := by simpa [Item.value?] using hsome
      exact .inl (h.mem_of_mem_tokens hitem (List.mem_cons_of_mem _ (List.mem_singleton_self _)))

end Row

/-- **Whatever is neither help nor rejected is a row of items.** -/
theorem exists_row_of_parse {tokens : List String}
    (hhelp : ∀ complaints, parse tokens ≠ .ok (.help complaints))
    (hrejected : ∀ complaints, parse tokens ≠ .ok (.rejected complaints)) :
    ∃ items inputFile outputPath, IsRow tokens items inputFile outputPath := by
  unfold parse at hhelp hrejected
  cases hreading : readTokens {} (dropLeadingDashes tokens) with
  | error fault =>
      rw [hreading] at hrejected
      exact absurd rfl (hrejected _)
  | ok reading =>
      rw [hreading] at hhelp hrejected
      dsimp only [Reading.request] at hhelp hrejected
      split at hhelp
      · exact absurd rfl (hhelp _)
      · rename_i hnone
        rw [if_neg hnone] at hrejected
        have hfalse : reading.help = false := by simpa using hnone
        split at hrejected
        · rename_i inputFile outputPath hpositionals hcomplaints
          have hpositional : ∀ t ∈ reading.rest, isPositional t = true := fun t ht => by
            have hunknown := List.filter_eq_nil_iff.1 (List.map_eq_nil_iff.1 hcomplaints) t ht
            simpa using hunknown
          obtain ⟨items, hproper, htokens⟩ :=
            (reads_of_readTokens hreading).exists_items hfalse hpositional
          have hread := readTokens_items hproper {}
          rw [← htokens, hreading] at hread
          have hrest : reading.rest = positionals items := by
            rw [Except.ok.inj hread, rest_items]
            rfl
          refine ⟨items, inputFile, outputPath, hproper, htokens, ?_⟩
          rw [← hrest, ← hpositionals, List.filter_eq_self.2 hpositional]
        · exact absurd rfl (hrejected _)
        · exact absurd rfl (hrejected _)

/-! ### What is not answered -/

/-- Optimization cannot be read exactly if its key was given a double dash. -/
theorem readOptimize_eq_error_iff (value : Option String) (failure : Failure) :
    readOptimize (value.map valueOf) = .error failure ↔
      failure = optimizeWithoutValue ∧ value = some dashes := by
  cases value with
  | none => simp [readOptimize]
  | some value =>
      by_cases hvalue : value = dashes
      · simp [readOptimize, valueOf, hvalue, eq_comm]
      · simp [readOptimize, valueOf, hvalue]

/-- **The command lines that are not answered** ask for a run and leave optimization without a
value. -/
theorem parse_eq_error_iff (tokens : List String) (failure : Failure) :
    parse tokens = .error failure ↔
      failure = optimizeWithoutValue ∧ LacksValue .optimize tokens := by
  constructor
  · intro h
    obtain ⟨items, inputFile, outputPath, hrow⟩ :=
      exists_row_of_parse (fun _ hhelp => nomatch h.symm.trans hhelp)
        fun _ hrejected => nomatch h.symm.trans hrejected
    have hread := (parse_row hrow).symm.trans h
    cases hoptimize : readOptimize ((lastValue .optimize items).map valueOf) with
    | ok optimize =>
        rw [hoptimize] at hread
        cases hread
    | error found =>
        rw [hoptimize] at hread
        cases hread
        obtain ⟨hfailure, hlast⟩ := (readOptimize_eq_error_iff _ _).1 hoptimize
        exact ⟨hfailure, items, inputFile, outputPath, hrow, hlast⟩
  · rintro ⟨rfl, items, inputFile, outputPath, hrow, hlast⟩
    rw [parse_row hrow, (readOptimize_eq_error_iff _ _).2 ⟨rfl, hlast⟩]
    rfl

/-! ### What is answered -/

/-- The arguments of a request for a run. -/
def Request.arguments? : Request → Option Arguments
  | .run arguments => some arguments
  | _ => none

/-- A request asks for help. -/
def Request.asksForHelp : Request → Bool
  | .help _ => true
  | _ => false

/-- Only what is complained about is rejected. -/
theorem complaints_ne_nil_of_parse {tokens : List String} {complaints : List Complaint}
    (h : parse tokens = .ok (.rejected complaints)) : complaints ≠ [] := by
  unfold parse at h
  split at h
  · cases h
    exact List.cons_ne_nil _ _
  · unfold Reading.request at h
    split at h
    · cases h
    · dsimp only at h
      split at h
      · unfold Except.map at h
        split at h <;> cases h
      · rename_i hnone
        cases h
        exact hnone
      · cases h
        simp

/-- **The arguments of a run stand in the command line,** but for the format: that one may also be
the default, and it is an empty sequence if its key was left without a value. -/
structure StandsIn (tokens : List String) (arguments : Arguments) : Prop where
  inputFile : arguments.inputFile ∈ tokens
  outputPath : arguments.outputPath ∈ tokens
  format : ¬ LacksValue .format tokens → ∃ value, arguments.format = .text value ∧
    (value = "native" ∨ value ∈ tokens ∨ Key.format.attachedToken value ∈ tokens)
  noFormat : LacksValue .format tokens → arguments.format = .sequence []

theorem standsIn_of_parse {tokens : List String} {arguments : Arguments}
    (h : parse tokens = .ok (.run arguments)) : StandsIn tokens arguments := by
  have hformat : ∀ {items inputFile outputPath}, IsRow tokens items inputFile outputPath →
      arguments.inputFile = inputFile ∧ arguments.outputPath = outputPath ∧
        arguments.format = readFormat ((lastValue .format items).map valueOf) := by
    intro items inputFile outputPath hrow
    have hread := (parse_row hrow).symm.trans h
    cases hoptimize : readOptimize ((lastValue .optimize items).map valueOf) <;>
      rw [hoptimize] at hread <;> cases hread
    exact ⟨rfl, rfl, rfl⟩
  obtain ⟨items, inputFile, outputPath, hrow⟩ :=
    exists_row_of_parse (fun _ hhelp => nomatch h.symm.trans hhelp)
      fun _ hrejected => nomatch h.symm.trans hrejected
  obtain ⟨hinput, houtput, hread⟩ := hformat hrow
  have hpositional : ∀ t ∈ [inputFile, outputPath], t ∈ tokens := by
    rw [← hrow.named]
    exact fun t => hrow.mem_of_mem_positionals
  refine ⟨?_, ?_, ?_, ?_⟩
  · exact hinput ▸ hpositional inputFile (by simp)
  · exact houtput ▸ hpositional outputPath (by simp)
  · intro hvalue
    cases hlast : lastValue .format items with
    | none =>
        rw [hlast] at hread
        exact ⟨"native", hread, .inl rfl⟩
    | some value =>
        have hne : value ≠ dashes := by
          rintro rfl
          exact hvalue ⟨items, inputFile, outputPath, hrow, hlast⟩
        rw [hlast, Option.map_some, valueOf_of_ne_dashes hne] at hread
        exact ⟨value, hread, .inr (hrow.mem_of_lastValue hlast)⟩
  · rintro ⟨others, _, _, hother, hlast⟩
    obtain ⟨-, -, hread⟩ := hformat hother
    rw [hlast] at hread
    exact hread

/-- **What follows a request:** what is printed for it, and how it goes on.  The complaints are
printed in any case. -/
inductive Follows (request : Request) : String → Continuation → Prop where
  /-- Nothing is printed for a run, which is done. -/
  | proceed {arguments : Arguments} : request.arguments? = some arguments →
      request.complaints = [] → Follows request "" (.proceed arguments)
  /-- The complaints and the usage text are printed, and the program ends. -/
  | exit {code : Nat} : request.asksForHelp = true →
      (code = 0 ∧ request.complaints = [] ∨ code = 1 ∧ request.complaints ≠ []) →
      Follows request
        (Text.writeLines (request.complaints.map Complaint.message ++ [usage])) (.exit code)
  /-- The complaints and the usage text are printed, and the complaints are raised. -/
  | refuse : request.asksForHelp = false → request.complaints ≠ [] →
      Follows request (Text.writeLines (request.complaints.map Complaint.message ++ [usage]))
        (.refuse (.arguments (request.complaints.map Complaint.message)))

theorem follows_of_parse {tokens : List String} {request : Request}
    (h : parse tokens = .ok request) : Follows request request.printed request.continuation := by
  cases request with
  | run arguments => exact .proceed rfl rfl
  | help complaints =>
      refine .exit rfl ?_
      cases complaints with
      | nil => exact .inl ⟨rfl, rfl⟩
      | cons complaint complaints => exact .inr ⟨rfl, List.cons_ne_nil _ _⟩
  | rejected complaints => exact .refuse rfl (complaints_ne_nil_of_parse h)

/-- **Which command lines are answered, and with what.**  A command line is not answered exactly if
it asks for a run and leaves optimization without a value.  Otherwise its request has arguments
exactly if it neither asks for help nor complains, these stand in the command line, and what is
printed and how it goes on follows from the request. -/
theorem parse_answered (tokens : List String) :
    (∀ failure, parse tokens = .error failure ↔
      failure = optimizeWithoutValue ∧ LacksValue .optimize tokens) ∧
    ∀ request, parse tokens = .ok request →
      (request.arguments?.isSome = true ↔
        request.asksForHelp = false ∧ request.complaints = []) ∧
      (∀ arguments, request.arguments? = some arguments → StandsIn tokens arguments) ∧
      Follows request request.printed request.continuation := by
  refine ⟨parse_eq_error_iff tokens, fun request h => ⟨?_, ?_, follows_of_parse h⟩⟩
  · cases request with
    | run arguments => exact iff_of_true rfl ⟨rfl, rfl⟩
    | help complaints => exact iff_of_false Bool.false_ne_true fun hnone => nomatch hnone.1
    | rejected complaints =>
        exact iff_of_false Bool.false_ne_true fun hnone => complaints_ne_nil_of_parse h hnone.2
  · intro arguments harguments
    cases request with
    | run found =>
        cases harguments
        exact standsIn_of_parse h
    | help complaints | rejected complaints => cases harguments

/-- What a command line asks for whose last format is left without a value. -/
def noFormatArguments : Arguments where
  format := .sequence []
  debugInfo := .default
  optimize := true
  verbose := false
  inputFile := "a.py"
  outputPath := "out"

/-- The last format counts, also if it is left without a value. -/
theorem parse_answered_noFormat :
    parse ["--format=typed", "a.py", "--format=--", "out"] = .ok (.run noFormatArguments) ∧
    LacksValue .format ["--format=typed", "a.py", "--format=--", "out"] ∧
    StandsIn ["--format=typed", "a.py", "--format=--", "out"] noFormatArguments ∧
    Follows (.run noFormatArguments) "" (.proceed noFormatArguments) := by
  have hparse : parse ["--format=typed", "a.py", "--format=--", "out"] =
      .ok (.run noFormatArguments) := by decide +kernel
  have hrow : IsRow ["--format=typed", "a.py", "--format=--", "out"]
      [.attached .format "typed", .positional "a.py", .attached .format "--", .positional "out"]
      "a.py" "out" := ⟨by decide, by decide, by decide⟩
  obtain ⟨-, hstands, hfollows⟩ :=
    (parse_answered ["--format=typed", "a.py", "--format=--", "out"]).2 _ hparse
  exact ⟨hparse, ⟨_, _, _, hrow, by decide⟩, hstands _ rfl, hfollows⟩

/-- A double dash that is attached to the key for optimization is not answered, and one that is
attached to the key for the format leaves it without a text. -/
theorem exists_unanswered_optimize :
    (∀ request, parse ["--optimize=--", "a.py", "out"] ≠ .ok request) ∧
    parse ["--format=--", "a.py", "out"] = .ok (.run noFormatArguments) ∧
    ∀ value, noFormatArguments.format ≠ .text value := by
  refine ⟨fun request => ?_, by decide +kernel, nofun⟩
  have hparse : parse ["--optimize=--", "a.py", "out"] = .error optimizeWithoutValue := by
    decide +kernel
  rw [hparse]
  exact nofun

end JitExplorer.CommandLine
