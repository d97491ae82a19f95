/-
**Every specialization is listed once, in order.**

A transcript says in advance, from what a toolchain says about a module, what an enumeration asks,
in which order, and which progress lines and specializations come in between.  An enumeration goes
through the transcript up to the first question that fails.

Main definitions:

* `Enumeration.Step`, `Enumeration.transcript` — the transcript of a module;
* `Enumeration.play` — the job that goes through a transcript;
* `Enumeration.Plays` — a job is nothing but going through some steps.

Main results:

* `Enumeration.play_of_answered`, `Enumeration.play_of_failing` — what going through steps leaves
  behind, depending on whether a question fails;
* `Enumeration.plays_ofBindings` — the bindings are gone through as the transcript says;
* `Enumeration.enumerate_of_follows` — **what an enumeration finds, reports and asks.**
-/

import JitExplorer.Proofs.Enumeration.Inventory
import JitExplorer.Text.Lines

set_option autoImplicit false

namespace JitExplorer.Enumeration

variable {σ : Type}

/-! ### Transcripts -/

/-- The steps of an enumeration. -/
inductive Step where
  /-- The toolchain is asked. -/
  | ask (question : Question)
  /-- A progress line is due. -/
  | say (line : String)
  /-- A specialization is found. -/
  | find (specialization : Specialization)

namespace Step

/-- The question of a step. -/
def question? : Step → Option Question
  | ask question => some question
  | _ => none

/-- The progress line of a step. -/
def line? : Step → Option String
  | say line => some line
  | _ => none

/-- The specialization of a step. -/
def specialization? : Step → Option Specialization
  | find specialization => some specialization
  | _ => none

end Step

/-- The questions of some steps, in order. -/
def questionsOf (steps : List Step) : List Question :=
  steps.filterMap Step.question?

/-- The progress lines of some steps, in order. -/
def linesOf (steps : List Step) : List String :=
  steps.filterMap Step.line?

/-- The specializations of some steps, in order. -/
def foundIn (steps : List Step) : List Specialization :=
  steps.filterMap Step.specialization?

section Transcript

variable (inventory : Inventory)

/-- The steps for a specialization. -/
def objectSteps (callable : Callable) (method : Method) (object : Ref) : List Step :=
  [.ask (.argTypes object), .say (specializationLine (inventory.typesOf object)),
    .find (inventory.specialization callable method object)]

/-- The steps for a method. -/
def methodSteps (callable : Callable) (method : Method) : List Step :=
  .ask (.specializations method) ::
    (inventory.objectsOf method).flatMap (objectSteps inventory callable method)

/-- The steps for a callable that is listed. -/
def callableSteps (binding : String × Ref) : List Step :=
  .ask (.displayName binding.1 binding.2) ::
    .say (callableLine (inventory.callableOf binding).name) ::
    .ask (.methods (inventory.callableOf binding)) ::
    (inventory.methodsOf (inventory.callableOf binding)).flatMap
      (methodSteps inventory (inventory.callableOf binding))

/-- The steps for the binding at a place. -/
def bindingSteps (names : List (String × Ref)) (place : Nat) (binding : String × Ref) : List Step :=
  .ask (.isCallable binding.2) ::
    if inventory.isListed names place binding then callableSteps inventory binding else []

/-- **The transcript of a module.** -/
def transcript : List Step :=
  .ask .bindings :: inventory.names.zipIdx.flatMap fun (binding, place) =>
    bindingSteps inventory inventory.names place binding

end Transcript

/-! ### Going through a transcript -/

/-- A question and what follows it: the follower takes place if the question is answered. -/
theorem ask_bind_apply {α β : Type} (question : σ → Answer σ α) (next : α → Job σ β)
    (bench : Bench σ) :
    (Job.ask question >>= next) bench =
      match (question bench.compiler).result with
      | .ok a => next a (Job.ask question bench).2
      | .error failure => (.error failure, (Job.ask question bench).2) := by
  rw [Act.bind_apply]
  cases h : (question bench.compiler).result with
  | ok a => exact Act.bind_ok next (by simp [Job.ask, h])
  | error failure => exact Act.bind_error next (by simp [Job.ask, h])

/-- A progress line and what follows it. -/
theorem sayIf_bind_apply {α : Type} (verbose : Bool) (line : String) (next : Unit → Job σ α)
    (bench : Bench σ) :
    (Job.sayIf verbose line >>= next) bench = next () (Job.sayIf verbose line bench).2 := by
  cases verbose <;> rfl

@[simp] theorem compiler_sayIf (verbose : Bool) (line : String) (bench : Bench σ) :
    (Job.sayIf verbose line bench).2.compiler = bench.compiler := by
  cases verbose <;> rfl

section Play

variable (toolchain : Toolchain σ) (context : Context) (verbose : Bool)

/-- The job that goes through steps; the specializations on the way are its result. -/
def play : List Step → Job σ (List Specialization)
  | [] => pure []
  | .ask question :: steps => do
      Job.ask (toolchain.answer context question)
      play steps
  | .say line :: steps => do
      Job.sayIf verbose line
      play steps
  | .find specialization :: steps => do
      let others ← play steps
      pure (specialization :: others)

/-- Steps are gone through one after another. -/
theorem play_append (steps others : List Step) :
    play toolchain context verbose (steps ++ others) =
      play toolchain context verbose steps >>= fun here =>
        play toolchain context verbose others >>= fun more => pure (here ++ more) := by
  induction steps with
  | nil =>
      simp only [List.nil_append, play, Act.pure_bind]
      funext bench
      rw [Act.bind_pure_apply]
      rcases play toolchain context verbose others bench with ⟨_ | _, after⟩ <;> rfl
  | cons step steps ih =>
      cases step with
      | ask question => simp only [List.cons_append, play, ih, Act.bind_assoc]
      | say line => simp only [List.cons_append, play, ih, Act.bind_assoc]
      | find specialization =>
          simp only [List.cons_append, play, ih, Act.bind_assoc, Act.pure_bind]

variable {toolchain context verbose} {inventory : Inventory}

theorem follows_play (steps : List Step) {bench : Bench σ}
    (h : toolchain.Follows context inventory bench.compiler) :
    toolchain.Follows context inventory
      (play toolchain context verbose steps bench).2.compiler := by
  induction steps generalizing bench with
  | nil => exact h
  | cons step steps ih =>
      cases step with
      | ask question =>
          rw [play, ask_bind_apply]
          cases (toolchain.answer context question bench.compiler).result with
          | ok _ => exact ih (h.after question)
          | error failure => exact h.after question
      | say line =>
          rw [play, sayIf_bind_apply]
          exact ih (by simpa using h)
      | find specialization =>
          rw [play, Act.bind_pure_apply]
          exact ih h

/-- A job is nothing but going through some steps, with any toolchain that follows the inventory. -/
def Plays (toolchain : Toolchain σ) (context : Context) (verbose : Bool) (inventory : Inventory)
    (job : Job σ (List Specialization)) (steps : List Step) : Prop :=
  ∀ bench, toolchain.Follows context inventory bench.compiler →
    job bench = play toolchain context verbose steps bench

namespace Plays

variable {job : Job σ (List Specialization)} {steps others : List Step}

theorem nil : Plays toolchain context verbose inventory (pure []) [] :=
  fun _ _ => rfl

/-- The toolchain is asked first.  Only what it answers counts for the rest. -/
theorem ask {α : Type} {question : σ → Answer σ α} {next : α → Job σ (List Specialization)}
    {result : Except Failure α} (q : Question)
    (hquestion : ∀ s, toolchain.answer context q s = (question s).map fun _ => ())
    (hresult : ∀ s, toolchain.Follows context inventory s → (question s).result = result)
    (hnext : ∀ a, result = .ok a → Plays toolchain context verbose inventory (next a) steps) :
    Plays toolchain context verbose inventory (Job.ask question >>= next) (.ask q :: steps) := by
  intro bench h
  have hanswer := hquestion bench.compiler
  have hafter : (Job.ask (toolchain.answer context q) bench).2 = (Job.ask question bench).2 := by
    simp only [Job.ask, hanswer, Answer.map]
  rw [play, ask_bind_apply, ask_bind_apply, hafter, hanswer, Answer.map, hresult _ h]
  cases result with
  | error failure => rfl
  | ok a =>
      refine hnext a rfl _ ?_
      rw [← hafter]
      exact h.after q

theorem say (h : Plays toolchain context verbose inventory job steps) (line : String) :
    Plays toolchain context verbose inventory (Job.sayIf verbose line >>= fun _ => job)
      (.say line :: steps) := by
  intro bench hbench
  rw [play, sayIf_bind_apply, sayIf_bind_apply]
  exact h _ (by simpa using hbench)

theorem find (h : Plays toolchain context verbose inventory job steps) (s : Specialization) :
    Plays toolchain context verbose inventory (job >>= fun others => pure (s :: others))
      (.find s :: steps) := by
  intro bench hbench
  rw [play, Act.bind_pure_apply, Act.bind_pure_apply, h bench hbench]

theorem append {other : Job σ (List Specialization)}
    (h : Plays toolchain context verbose inventory job steps)
    (hother : Plays toolchain context verbose inventory other others) :
    Plays toolchain context verbose inventory
      (job >>= fun here => other >>= fun more => pure (here ++ more)) (steps ++ others) := by
  intro bench hbench
  have hfollows : toolchain.Follows context inventory
      (play toolchain context verbose steps bench).2.compiler := follows_play steps hbench
  rw [play_append, Act.bind_apply, Act.bind_apply, Act.bind, Act.bind, h bench hbench]
  rcases hplay : play toolchain context verbose steps bench with ⟨failure | here, after⟩
  · rfl
  · rw [hplay] at hfollows
    dsimp only
    rw [Act.bind_pure_apply, Act.bind_pure_apply, hother after hfollows]

end Plays

/-! ### The steps of an enumeration -/

section Enumerate

variable (toolchain context verbose inventory)

theorem plays_ofItems (callable : Callable) (method : Method) (items : List (Option Ref)) :
    Plays toolchain context verbose inventory (ofItems toolchain verbose callable method items)
      ((items.filterMap id).flatMap (objectSteps inventory callable method)) := by
  induction items with
  | nil => exact .nil
  | cons item items ih =>
      cases item with
      | none => exact ih
      | some object =>
          change Plays toolchain context verbose inventory _
            (.ask (.argTypes object) :: .say (specializationLine (inventory.typesOf object)) ::
              .find (inventory.specialization callable method object) ::
                (items.filterMap id).flatMap (objectSteps inventory callable method))
          refine .ask (.argTypes object) (fun _ => rfl) (fun s h => h.answersAs.argTypes object)
            fun argTypes hargTypes => ?_
          have htypes : inventory.typesOf object = argTypes := by
            simp [Inventory.typesOf, hargTypes, Except.toOption]
          have hfind := (ih.find (inventory.specialization callable method object)).say
            (specializationLine (inventory.typesOf object))
          simpa only [Inventory.specialization, htypes] using hfind

theorem plays_ofMethod (callable : Callable) (method : Method) :
    Plays toolchain context verbose inventory (ofMethod toolchain verbose callable method)
      (methodSteps inventory callable method) := by
  refine .ask (.specializations method) (fun _ => rfl)
    (fun s h => h.answersAs.specializations method) fun items hitems => ?_
  rw [← inventory.filterMap_of_items_eq_ok hitems]
  exact plays_ofItems toolchain context verbose inventory callable method items

theorem plays_ofMethods (callable : Callable) (methods : List Method) :
    Plays toolchain context verbose inventory (ofMethods toolchain verbose callable methods)
      (methods.flatMap (methodSteps inventory callable)) := by
  induction methods with
  | nil => exact .nil
  | cons method methods ih =>
      rw [List.flatMap_cons]
      exact (plays_ofMethod toolchain context verbose inventory callable method).append ih

theorem plays_ofCallable (binding : String × Ref) :
    Plays toolchain context verbose inventory
      (ofCallable toolchain verbose context binding.1 binding.2)
      (callableSteps inventory binding) := by
  refine .ask (.displayName binding.1 binding.2) (fun _ => rfl)
    (fun s h => h.answersAs.displayName binding.1 binding.2) fun name hname => ?_
  have hcallable : inventory.callableOf binding = { name, object := binding.2 } := by
    simp [Inventory.callableOf, hname, Except.toOption]
  rw [hcallable]
  refine .say (.ask (.methods { name, object := binding.2 }) (fun _ => rfl)
    (fun s h => h.answersAs.methods _) fun methods hmethods => ?_) _
  have hmethodsOf : inventory.methodsOf { name, object := binding.2 } = methods := by
    simp [Inventory.methodsOf, hmethods, Except.toOption]
  rw [hmethodsOf]
  exact plays_ofMethods toolchain context verbose inventory _ methods

/-- **The bindings are gone through as the transcript says,** if the callables in `seen` are those
that the bindings in front are bound to. -/
theorem plays_ofBindings (front : List (String × Ref)) (seen : List Ref)
    (hseen : ∀ object, seen.contains object =
      front.any fun earlier => inventory.bindsCallable earlier && earlier.2 == object)
    (bindings : List (String × Ref)) :
    Plays toolchain context verbose inventory (ofBindings toolchain verbose context seen bindings)
      ((bindings.zipIdx front.length).flatMap fun (binding, place) =>
        bindingSteps inventory (front ++ bindings) place binding) := by
  induction bindings generalizing front seen with
  | nil => exact .nil
  | cons binding bindings ih =>
      have hlisted : inventory.isListed (front ++ binding :: bindings) front.length binding =
          (inventory.bindsCallable binding && !seen.contains binding.2) := by
        rw [Inventory.isListed, List.take_left, hseen]
      -- What comes behind sees this binding in front.
      have hrest : ∀ seen, (∀ object, seen.contains object = (front ++ [binding]).any
            fun earlier => inventory.bindsCallable earlier && earlier.2 == object) →
          Plays toolchain context verbose inventory
            (ofBindings toolchain verbose context seen bindings)
            ((bindings.zipIdx (front.length + 1)).flatMap fun (later, place) =>
              bindingSteps inventory (front ++ binding :: bindings) place later) := by
        intro seen hseen
        simpa using ih (front ++ [binding]) seen hseen
      rw [List.zipIdx_cons, List.flatMap_cons]
      dsimp only [bindingSteps]
      rw [List.cons_append]
      refine .ask (.isCallable binding.2) (fun _ => rfl)
        (fun s h => h.answersAs.isCallable binding.2) fun callable hcallable => ?_
      have hbinds : inventory.bindsCallable binding = callable := by
        simp [Inventory.bindsCallable, hcallable, Except.toOption]
      have hnow : ∀ object, ((front ++ [binding]).any fun earlier =>
            inventory.bindsCallable earlier && earlier.2 == object) =
          (seen.contains object || (callable && binding.2 == object)) := by
        intro object
        rw [List.any_append, ← hseen, List.any_cons, List.any_nil, hbinds, Bool.or_false]
      rw [hlisted, hbinds]
      cases hnew : callable && !seen.contains binding.2 with
      | true =>
          refine (plays_ofCallable toolchain context verbose inventory binding).append
            (hrest _ fun object => ?_)
          rw [hnow, List.contains_cons, (Bool.and_eq_true_iff.1 hnew).1, Bool.true_and,
            Bool.or_comm, BEq.comm]
      | false =>
          refine hrest _ fun object => ?_
          rw [hnow]
          cases hobject : callable && binding.2 == object with
          | false => rw [Bool.or_false]
          | true =>
              obtain ⟨rfl, hsame⟩ := Bool.and_eq_true_iff.1 hobject
              obtain rfl := eq_of_beq hsame
              simpa using hnew

end Enumerate

/-! ### What going through steps leaves behind -/

end Play

/-- The progress text of some lines. -/
def reported (verbose : Bool) (lines : List String) : String :=
  if verbose then Text.writeLines lines else ""

/-- What a listing that started at a bench leaves behind: its result, a toolchain that was asked
some questions and no others, and some more lines of progress. -/
structure Leaves (toolchain : Toolchain σ) (context : Context) (verbose : Bool) (start : Bench σ)
    (result : Except Failure (List Specialization)) (questions : List Question)
    (lines : List String) (outcome : Except Failure (List Specialization) × Bench σ) : Prop where
  result : outcome.1 = result
  compiler : outcome.2.compiler = toolchain.afterAll context questions start.compiler
  progress : outcome.2.progress = start.progress ++ reported verbose lines

section Leaves

variable {toolchain : Toolchain σ} {context : Context} {verbose : Bool} {inventory : Inventory}

/-- A progress line and the lines behind it. -/
theorem progress_sayIf_append (line : String) (lines : List String) (bench : Bench σ) :
    (Job.sayIf verbose line bench).2.progress ++ reported verbose lines =
      bench.progress ++ reported verbose (line :: lines) := by
  cases verbose with
  | false => rfl
  | true =>
      change bench.progress ++ line ++ "\n" ++ Text.writeLines lines = _
      simp only [reported, if_true, Text.writeLines, String.append_assoc]

namespace Leaves

variable {start : Bench σ} {result : Except Failure (List Specialization)}
  {questions : List Question} {lines : List String}
  {outcome : Except Failure (List Specialization) × Bench σ}

theorem ask {question : Question}
    (h : Leaves toolchain context verbose (Job.ask (toolchain.answer context question) start).2
      result questions lines outcome) :
    Leaves toolchain context verbose start result (question :: questions) lines outcome :=
  ⟨h.result, h.compiler, h.progress⟩

theorem say {line : String}
    (h : Leaves toolchain context verbose (Job.sayIf verbose line start).2 result questions lines
      outcome) :
    Leaves toolchain context verbose start result questions (line :: lines) outcome :=
  ⟨h.result, by rw [h.compiler, compiler_sayIf], by rw [h.progress, progress_sayIf_append]⟩

end Leaves

/-- **Steps whose questions are all answered** are gone through to the end. -/
theorem play_of_answered {steps : List Step} {start : Bench σ}
    (hfollows : toolchain.Follows context inventory start.compiler)
    (h : ∀ question ∈ questionsOf steps, inventory.failure? question = none) :
    Leaves toolchain context verbose start (.ok (foundIn steps)) (questionsOf steps) (linesOf steps)
      (play toolchain context verbose steps start) := by
  induction steps generalizing start with
  | nil => exact ⟨rfl, rfl, by cases verbose <;> simp [play, reported, linesOf, Text.writeLines]⟩
  | cons step steps ih =>
      cases step with
      | ask question =>
          obtain ⟨hquestion, hquestions⟩ := List.forall_mem_cons.1 h
          have hresult := Toolchain.result_answer hfollows.answersAs question
          rw [hquestion] at hresult
          rw [play, ask_bind_apply, hresult]
          exact Leaves.ask (ih (hfollows.after question) hquestions)
      | say line =>
          rw [play, sayIf_bind_apply]
          exact Leaves.say (ih (by simpa using hfollows) h)
      | find specialization =>
          have hsteps := ih hfollows h
          rw [play, Act.bind_pure_apply]
          exact ⟨by rw [hsteps.result]; rfl, hsteps.compiler, hsteps.progress⟩

/-- **Steps with a question that fails** are gone through up to it. -/
theorem play_of_failing {front back : List Step} {question : Question} {failure : Failure}
    {start : Bench σ} (hfollows : toolchain.Follows context inventory start.compiler)
    (hfront : ∀ earlier ∈ questionsOf front, inventory.failure? earlier = none)
    (hfailure : inventory.failure? question = some failure) :
    Leaves toolchain context verbose start (.error failure) (questionsOf front ++ [question])
      (linesOf front) (play toolchain context verbose (front ++ .ask question :: back) start) := by
  have hplayed : Leaves toolchain context verbose start (.ok (foundIn front)) (questionsOf front)
      (linesOf front) (play toolchain context verbose front start) :=
    play_of_answered hfollows hfront
  have hafter : toolchain.Follows context inventory
      (play toolchain context verbose front start).2.compiler := follows_play front hfollows
  rw [play_append, Act.bind_apply, Act.bind]
  rcases hplay : play toolchain context verbose front start with ⟨result, after⟩
  rw [hplay] at hplayed hafter
  obtain ⟨rfl, hcompiler, hprogress⟩ := hplayed
  -- What is left is the question that fails, and what would follow it.
  have hresult := Toolchain.result_answer hafter.answersAs question
  rw [hfailure] at hresult
  dsimp only
  rw [Act.bind_pure_apply, play, ask_bind_apply, hresult]
  refine ⟨rfl, ?_, hprogress⟩
  change toolchain.after context after.compiler question = _
  rw [hcompiler, Toolchain.afterAll, Toolchain.afterAll, List.foldl_append]
  rfl

end Leaves

/-! ### The transcript as a whole -/

section Transcript

variable (inventory : Inventory)

/-- What is picked out of a transcript is picked out of the steps of the listed bindings. -/
theorem filterMap_transcript {α : Type} (pick : Step → Option α)
    (hask : ∀ question, pick (.ask question) = none) :
    (transcript inventory).filterMap pick =
      inventory.listed.flatMap fun binding => (callableSteps inventory binding).filterMap pick := by
  have hbindings : ∀ names bindings : List (String × Ref), ∀ place : Nat,
      ((bindings.zipIdx place).flatMap fun (binding, place) =>
          bindingSteps inventory names place binding).filterMap pick =
        (((bindings.zipIdx place).filter fun (binding, place) =>
            inventory.isListed names place binding).map Prod.fst).flatMap fun binding =>
          (callableSteps inventory binding).filterMap pick := by
    intro names bindings
    induction bindings with
    | nil => exact fun _ => rfl
    | cons binding bindings ih =>
        intro place
        rw [List.zipIdx_cons, List.flatMap_cons, List.filterMap_append, ih]
        cases h : inventory.isListed names place binding with
        | false => simp [bindingSteps, h, hask]
        | true => simp [bindingSteps, h, hask]
  rw [transcript, List.filterMap_cons_none (hask _), hbindings]
  rfl

theorem foundIn_transcript : foundIn (transcript inventory) = inventory.found := by
  rw [foundIn, filterMap_transcript inventory _ fun _ => rfl]
  simp only [Inventory.found, callableSteps, methodSteps, objectSteps, List.filterMap_cons,
    Step.specialization?, List.filterMap_flatMap, List.filterMap_nil, List.map_eq_flatMap]

theorem linesOf_transcript : linesOf (transcript inventory) = inventory.lines := by
  rw [linesOf, filterMap_transcript inventory _ fun _ => rfl]
  simp only [Inventory.lines, callableSteps, methodSteps, objectSteps, List.filterMap_cons,
    Step.line?, List.filterMap_flatMap, List.filterMap_nil, List.map_eq_flatMap]

end Transcript

section Enumerate

variable {toolchain : Toolchain σ} {context : Context} {verbose : Bool} {inventory : Inventory}

/-- The bindings are asked for and gone through as the transcript says. -/
theorem plays_transcript :
    Plays toolchain context verbose inventory
      (Job.ask (toolchain.bindings context) >>= ofBindings toolchain verbose context [])
      (transcript inventory) := by
  refine .ask .bindings (fun _ => rfl) (fun s h => h.answersAs.bindings)
    fun bindings hbindings => ?_
  have hnames : inventory.names = bindings := by
    simp [Inventory.names, hbindings, Except.toOption]
  rw [hnames]
  exact plays_ofBindings toolchain context verbose inventory [] [] (fun _ => rfl) bindings

/-- What is logged in the end changes nothing else. -/
theorem Leaves.of_transcript {start : Bench σ} {result : Except Failure (List Specialization)}
    {questions : List Question} {lines : List String}
    (hfollows : toolchain.Follows context inventory start.compiler)
    (h : Leaves toolchain context verbose start result questions lines
      (play toolchain context verbose (transcript inventory) start)) :
    Leaves toolchain context verbose start result questions lines
      (enumerate toolchain verbose context start) := by
  have henumerate : enumerate toolchain verbose context =
      (Job.ask (toolchain.bindings context) >>= ofBindings toolchain verbose context []) >>=
        fun found => Job.log .debug
          ("Found " ++ Text.natText found.length ++ " specializations in " ++ context.path) >>=
            fun _ => pure found := by
    rw [Act.bind_assoc]
    rfl
  rw [henumerate, Act.bind_apply, Act.bind, plays_transcript start hfollows]
  rcases hplay : play toolchain context verbose (transcript inventory) start with ⟨_ | found, after⟩
  · rwa [hplay] at h
  · rw [hplay] at h
    exact ⟨h.result, h.compiler, h.progress⟩

/-- **What an enumeration finds, reports and asks.**  If no question fails, the specializations of
each listed binding are found, method by method, and reported in the same order.  At the first
question that fails it ends with that failure: nothing more is asked, and what came before it is
reported. -/
theorem enumerate_of_follows (toolchain : Toolchain σ) (context : Context) (verbose : Bool)
    (inventory : Inventory) (start : Bench σ)
    (h : toolchain.Follows context inventory start.compiler) :
    ((∀ question ∈ questionsOf (transcript inventory), inventory.failure? question = none) →
      Leaves toolchain context verbose start (.ok inventory.found)
        (questionsOf (transcript inventory)) inventory.lines
        (enumerate toolchain verbose context start)) ∧
    ∀ front question back failure, transcript inventory = front ++ .ask question :: back →
      (∀ earlier ∈ questionsOf front, inventory.failure? earlier = none) →
      inventory.failure? question = some failure →
      Leaves toolchain context verbose start (.error failure) (questionsOf front ++ [question])
        (linesOf front) (enumerate toolchain verbose context start) := by
  constructor
  · intro hanswered
    have hplay : Leaves toolchain context verbose start (.ok (foundIn (transcript inventory)))
        (questionsOf (transcript inventory)) (linesOf (transcript inventory))
        (play toolchain context verbose (transcript inventory) start) :=
      play_of_answered h hanswered
    rw [foundIn_transcript, linesOf_transcript] at hplay
    exact hplay.of_transcript h
  · intro front question back failure htranscript hfront hfailure
    have hplay : Leaves toolchain context verbose start (.error failure)
        (questionsOf front ++ [question]) (linesOf front)
        (play toolchain context verbose (front ++ .ask question :: back) start) :=
      play_of_failing h hfront hfailure
    rw [← htranscript] at hplay
    exact hplay.of_transcript h

end Enumerate

/-- A function that is bound twice, with a gap in front of its specialization, and behind it a
function whose specializations are kept in some container. -/
def aliasScript (container : Container (Option Script.Item)) : Script where
  bindings :=
    [("f", .callable
        { definitions :=
            [{ line := 3, items := .sequence [none, some { argTypes := .ok ["i4"] }] }] }),
      ("alias", .same 0), ("value", .plain),
      ("g", .callable { definitions := [{ line := 8, items := container }] })]

/-- A function that is bound twice is listed once.  A container that is refused ends the enumeration
behind the line of its function. -/
theorem enumerate_aliasScript :
    ((enumerate Script.toolchain true ⟨"m", "/m.py"⟩ { compiler := aliasScript .missing }).1 =
        .ok [⟨⟨"f", [0]⟩, ["i4"], ⟨⟨"f", [0]⟩, 3, [0, 0]⟩, [0, 0, 1]⟩] ∧
      (enumerate Script.toolchain true ⟨"m", "/m.py"⟩
        { compiler := aliasScript .missing }).2.progress =
          "Function: f\n    Method types: (i4)\nFunction: g\n") ∧
    (enumerate Script.toolchain true ⟨"m", "/m.py"⟩ { compiler := aliasScript (.other "set") }).1 =
        .error (.explorer (.shape "set" "g")) ∧
      (enumerate Script.toolchain true ⟨"m", "/m.py"⟩
        { compiler := aliasScript (.other "set") }).2.progress =
          "Function: f\n    Method types: (i4)\nFunction: g\n" := by
  have hlisted := (enumerate_of_follows Script.toolchain ⟨"m", "/m.py"⟩ true _
    { compiler := aliasScript .missing } (Script.follows_inventory _ _)).1 (by decide)
  have hrefused := (enumerate_of_follows Script.toolchain ⟨"m", "/m.py"⟩ true _
    { compiler := aliasScript (.other "set") } (Script.follows_inventory _ _)).2
      ((transcript ((aliasScript (.other "set")).inventory ⟨"m", "/m.py"⟩)).take 15)
      (.specializations ⟨⟨"g", [3]⟩, 8, [3, 0]⟩) [] _ rfl (by decide) rfl
  refine ⟨⟨hlisted.result, ?_⟩, hrefused.result, ?_⟩
  · rw [hlisted.progress]
    decide
  · rw [hrefused.progress]
    decide

end JitExplorer.Enumeration
