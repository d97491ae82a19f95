/-
**Wanting progress changes nothing else.**

Two runs that differ only in whether progress is wanted make the same calls in the same order, leave
the same files and the same log behind, and end in the same way.  So do two runs of the program, if
their command lines differ only in this; then the error stream shows more or less of the log.  A
command line that wants progress is made from any other one by putting the flag in front.

Progress is taken by whatever receives it: a stream that refuses it would end the run that shows it.

Main definitions:

* `CommandLine.Request.wanting` — a request, but for whether progress is wanted;
* `Program.calls` — the calls of a run of the program.

Main results:

* `Program.agree_run` — runs of the program agree if their toolchains answer alike;
* `CommandLine.parse_verboseToken_cons` — what the flag does to a command line;
* `Program.wanting_changes_progress_only` — **wanting progress changes nothing else.**
-/

import JitExplorer.Program
import JitExplorer.Proofs.CommandLine.Grammar
import JitExplorer.Proofs.Pipeline.Calls

set_option autoImplicit false

namespace JitExplorer

variable {σ τ : Type}

/-! ### Command lines -/

namespace CommandLine

/-- A request, but for whether progress is wanted. -/
def Request.wanting (wanted : Bool) : Request → Request
  | .run arguments => .run { arguments with verbose := wanted }
  | .help complaints => .help complaints
  | .rejected complaints => .rejected complaints

/-- It does not matter when the flag is given. -/
theorem readTokens_raise_verbose (reading : Reading) (ts : List String) :
    readTokens (reading.raise .verbose) ts =
      (readTokens reading ts).map fun result => result.raise .verbose := by
  induction reading, ts using readTokens.induct with
  | case1 reading => rfl
  | case2 reading ts =>
      rw [readTokens_dashes, readTokens_dashes]
      rfl
  | case3 reading t ts hne hclass ih | case4 reading t ts hne hclass ih =>
      simp only [readTokens, if_neg hne, hclass]
      exact ih
  | case5 reading t ts hne flag hclass ih =>
      simp only [readTokens, if_neg hne, hclass]
      cases flag <;> exact ih
  | case7 reading t ts hne letters hclass hfault ih =>
      simp only [readTokens, if_neg hne, hclass, hfault]
      exact ih
  | case9 reading t ts hne key value hclass ih =>
      simp only [readTokens, if_neg hne, hclass]
      cases key <;> exact ih
  | case11 reading t hne key hclass value ts hvalue ih =>
      simp only [readTokens, if_neg hne, hclass, hvalue, if_true]
      cases key <;> exact ih
  | case6 reading t ts hne flag value hclass =>
      simp only [readTokens, if_neg hne, hclass, Except.map]
  | case8 reading t ts hne letters hclass fault hfault =>
      simp only [readTokens, if_neg hne, hclass, hfault, Except.map]
  | case10 reading t hne key hclass => simp only [readTokens, if_neg hne, hclass, Except.map]
  | case12 reading t hne key hclass value ts hvalue =>
      simp only [readTokens, if_neg hne, hclass, hvalue, Except.map, if_false, Bool.false_eq_true]

/-- The flag changes whether progress is wanted, and nothing else that is asked for. -/
theorem Reading.request_raise_verbose (reading : Reading) :
    (reading.raise .verbose).request = reading.request.map (Request.wanting true) := by
  obtain ⟨format, debugInfo, optimize, verbose, help, rest⟩ := reading
  unfold Reading.request
  dsimp only [Reading.raise]
  generalize (rest.filter fun t => !isPositional t).map Complaint.unknown = complaints
  generalize rest.filter isPositional = positionals
  cases help with
  | true => rfl
  | false =>
      rcases positionals with _ | ⟨inputFile, _ | ⟨outputPath, _ | ⟨other, rest⟩⟩⟩
      · rfl
      · rfl
      · cases complaints with
        | nil => cases readOptimize optimize <;> rfl
        | cons complaint complaints => rfl
      · rfl

/-- **The flag in front of a command line** asks for the same, but for progress. -/
theorem parse_verboseToken_cons (tokens : List String) :
    parse (verboseToken :: dropLeadingDashes tokens) =
      (parse tokens).map (Request.wanting true) := by
  have hdrop : dropLeadingDashes (verboseToken :: dropLeadingDashes tokens) =
      verboseToken :: dropLeadingDashes tokens := by
    rw [dropLeadingDashes, if_neg (by decide)]
  have hread : readTokens {} (verboseToken :: dropLeadingDashes tokens) =
      (readTokens {} (dropLeadingDashes tokens)).map fun result => result.raise .verbose :=
    have hitem : Item.verbose.IsProper := trivial
    (readTokens_tokens_append hitem {} _).trans (readTokens_raise_verbose {} _)
  rw [parse, parse, hdrop, hread]
  cases readTokens {} (dropLeadingDashes tokens) with
  | error fault => rfl
  | ok reading => exact reading.request_raise_verbose

end CommandLine

/-! ### Runs of the program -/

namespace Program

section Agree

variable {R : σ → τ → Prop} {toolchain : Toolchain σ} {other : Toolchain τ}

/-- How the program ends after a run, and what it leaves behind. -/
theorem run_of_parse {tokens : List String} {arguments : Arguments}
    (h : CommandLine.parse tokens = .ok (.run arguments)) (bench : Bench σ) :
    ((run toolchain tokens bench).ending, (run toolchain tokens bench).bench) =
      settle arguments (Pipeline.generate toolchain arguments bench).1
        (Pipeline.generate toolchain arguments bench).2 := by
  unfold run
  rw [h]
  rfl

theorem agree_settle (arguments : Arguments) (result : Except Failure Nat) {bench : Bench σ}
    {beside : Bench τ} (h : bench.Agree R beside) :
    (settle arguments result bench).1 = (settle arguments result beside).1 ∧
      (settle arguments result bench).2.Agree R (settle arguments result beside).2 := by
  cases result with
  | ok n => exact ⟨rfl, h⟩
  | error failure =>
      dsimp only [settle]
      cases message? arguments failure with
      | none => exact ⟨rfl, h⟩
      | some message => exact ⟨rfl, { h with log := congrArg (· ++ _) h.log }⟩

/-- **Runs of the program agree** if the toolchains answer alike and the command lines ask for the
same, whether progress is wanted or not. -/
theorem agree_run (h : toolchain.Agree R other) {tokens others : List String} {wanted : Bool}
    (hparse : CommandLine.parse others =
      (CommandLine.parse tokens).map (CommandLine.Request.wanting wanted))
    {bench : Bench σ} {beside : Bench τ} (hbench : bench.Agree R beside) :
    (run toolchain tokens bench).ending = (run other others beside).ending ∧
      (run toolchain tokens bench).bench.Agree R (run other others beside).bench := by
  rcases htokens : CommandLine.parse tokens with failure | (arguments | complaints | complaints)
  · rw [htokens] at hparse
    simp only [run, htokens, hparse]
    exact ⟨rfl, hbench⟩
  · -- What is wanted matters to the run only, and not to what follows it.
    rw [htokens] at hparse
    obtain ⟨hending, hleft⟩ := Prod.mk.inj (run_of_parse htokens bench)
    obtain ⟨hended, hbehind⟩ := Prod.mk.inj (run_of_parse hparse beside)
    obtain ⟨hresult, hafter⟩ := Pipeline.agree_generate h arguments wanted hbench
    rw [hending, hleft, hended, hbehind, hresult]
    exact agree_settle arguments _ hafter
  · rw [htokens] at hparse
    simp only [run, htokens, hparse]
    exact ⟨rfl, hbench⟩
  · rw [htokens] at hparse
    simp only [run, htokens, hparse]
    exact ⟨rfl, hbench⟩

end Agree

/-- The calls of a run of the program, in order. -/
def calls (toolchain : Toolchain σ) (tokens : List String) (bench : Bench σ) :
    List Toolchain.Event :=
  (run toolchain.recorded tokens bench.recording).bench.compiler.2

/-- **Wanting progress changes nothing else.**  Two runs make the same calls, end in the same way,
and leave benches behind that agree in everything but the progress text, if they differ only in
whether progress is wanted.  The same holds of the program, for any two command lines that differ
only in this, and putting the flag in front of a command line makes such a pair. -/
theorem wanting_changes_progress_only (toolchain : Toolchain σ) (bench : Bench σ) (wanted : Bool) :
    (∀ arguments : Arguments,
      (Pipeline.generate toolchain arguments bench).1 =
          (Pipeline.generate toolchain { arguments with verbose := wanted } bench).1 ∧
        (Pipeline.generate toolchain arguments bench).2.Agree Eq
          (Pipeline.generate toolchain { arguments with verbose := wanted } bench).2 ∧
        Pipeline.calls toolchain arguments bench =
          Pipeline.calls toolchain { arguments with verbose := wanted } bench) ∧
    (∀ tokens others : List String,
      CommandLine.parse others =
          (CommandLine.parse tokens).map (CommandLine.Request.wanting wanted) →
        (run toolchain tokens bench).ending = (run toolchain others bench).ending ∧
          (run toolchain tokens bench).bench.Agree Eq (run toolchain others bench).bench ∧
          calls toolchain tokens bench = calls toolchain others bench) ∧
    ∀ tokens : List String,
      CommandLine.parse (CommandLine.verboseToken :: CommandLine.dropLeadingDashes tokens) =
        (CommandLine.parse tokens).map (CommandLine.Request.wanting true) := by
  refine ⟨fun arguments => ?_, fun tokens others hparse => ?_, CommandLine.parse_verboseToken_cons⟩
  · obtain ⟨hresult, hafter⟩ :=
      Pipeline.agree_generate toolchain.agree_refl arguments wanted bench.agree_refl
    obtain ⟨-, hrecorded⟩ := Pipeline.agree_generate toolchain.recorded.agree_refl arguments wanted
      bench.recording.agree_refl
    exact ⟨hresult, hafter, congrArg Prod.snd hrecorded.compiler⟩
  · obtain ⟨hending, hafter⟩ := agree_run toolchain.agree_refl hparse bench.agree_refl
    obtain ⟨-, hrecorded⟩ := agree_run toolchain.recorded.agree_refl hparse
      bench.recording.agree_refl
    exact ⟨hending, hafter, congrArg Prod.snd hrecorded.compiler⟩

/-- A bench with a source, of which the second callable does not say its argument types. -/
def talkingBench : Bench Script where
  compiler := { bindings := [("f", callable (.ok ["int32"])),
    ("g", callable (.error (.ordinary "KeyError" "k")))] }
  files := { entries := [(["work", "in.py"], .source .finishes)] }
where
  callable (argTypes : Except Failure (List String)) : Binding Script.Function :=
    .callable { definitions := [{ line := 4, items := .lone (some { argTypes }) }] }

/-- Progress is shown up to the failure that ends both runs. -/
theorem wanting_shows_progress :
    CommandLine.parse ["in.py", "--verbose", "out.txt"] =
        (CommandLine.parse ["in.py", "out.txt"]).map (CommandLine.Request.wanting true) ∧
      (run Script.toolchain ["in.py", "out.txt"] talkingBench).printed = "" ∧
      (run Script.toolchain ["in.py", "--verbose", "out.txt"] talkingBench).printed =
        "Function: f\n    Method types: (int32)\nFunction: g\n" ∧
      (run Script.toolchain ["in.py", "out.txt"] talkingBench).ending =
        (run Script.toolchain ["in.py", "--verbose", "out.txt"] talkingBench).ending ∧
      calls Script.toolchain ["in.py", "out.txt"] talkingBench =
        calls Script.toolchain ["in.py", "--verbose", "out.txt"] talkingBench := by
  have hparse : CommandLine.parse ["in.py", "--verbose", "out.txt"] =
      (CommandLine.parse ["in.py", "out.txt"]).map (CommandLine.Request.wanting true) := by
    decide +kernel
  obtain ⟨-, hprogram, -⟩ := wanting_changes_progress_only Script.toolchain talkingBench true
  obtain ⟨hending, -, hcalls⟩ := hprogram _ _ hparse
  exact ⟨hparse, by decide +kernel, by decide +kernel, hending, hcalls⟩

end Program

end JitExplorer
