/-
**One further run.**

A document that changes while a run of it is under way is run once more afterwards, however often it
changed and whatever else happened, and then with its latest text.

Main definitions:

* `Session.IsStale` — a run of a document is under way that does not have its latest text;
* `Session.History.RunsOnceMore` — what the runs of a document do when the editor does nothing.

Main results:

* `Session.IsStale.effect` — a document stays marked as long as its run is under way;
* `Session.History.isStale_of_changed` — so does a document that was changed during its run;
* `Session.History.runsOnceMore_of_isStale` — a marked document is run exactly once more.
-/

import JitExplorer.Proofs.Session.LatestText

set_option autoImplicit false

namespace JitExplorer.Session

/-! ### Marks -/

/-- A run of a document is under way, and if the document is open and can be run, it is marked. -/
structure IsStale (uri : String) (s : Session) : Prop where
  running : s.isRunning uri = true
  marked : ∀ document, s.document? uri = some document → s.hasInterpreter = true →
    s.isPending uri = true

section IsStale

variable {uri path : String} {s t : Session}

theorem IsStale.of_core (hcore : s.core = t.core) (ht : IsStale uri t) : IsStale uri s := by
  have hstale : IsStale uri t.core := ⟨ht.running, ht.marked⟩
  rw [← hcore] at hstale
  exact ⟨hstale.running, hstale.marked⟩

/-- A run that is asked for stops none. -/
theorem submitted_isRunning (h : s.isRunning uri = true) (text path other : String) :
    (s.submitted text path other).isRunning uri = true := by
  refine submitted_cases (P := fun t => t.isRunning uri = true) (fun _ => h) ?_ h
  intro _
  rw [isRunning_enqueued, h, ite_self]

/-- A run that is asked for takes no mark away. -/
theorem submitted_isPending (h : s.isPending uri = true) (text path other : String) :
    (s.submitted text path other).isPending uri = true := by
  refine submitted_cases (P := fun t => t.isPending uri = true) ?_ (fun _ => h) h
  intro _
  rw [isPending_marked, h, ite_self]

/-- A document is marked when a run of it is asked for during its run. -/
theorem submitted_isPending_self (hrunning : s.isRunning uri = true) (hon : s.hasInterpreter = true)
    (text path : String) : (s.submitted text path uri).isPending uri = true := by
  unfold submitted
  rw [if_pos hon, if_pos hrunning, isPending_marked, if_pos rfl]

theorem isStale_submitted (hrunning : s.isRunning uri = true) (text path : String) :
    IsStale uri (s.submitted text path uri) := by
  refine ⟨submitted_isRunning hrunning text path uri, ?_⟩
  intro document _ hon
  simp only [hasInterpreter, submitted_interpreter] at hon
  exact submitted_isPending_self hrunning hon text path

/-- **A document stays marked as long as its run is under way.** -/
theorem IsStale.effect (hstale : IsStale uri s) (hpath : Uri.filePath uri = .ok path)
    (hsource : isSourcePath path = true) (hlocated : ∀ d ∈ s.documents, HasPath d.uri)
    (heffect : Effect uri path s t) : IsStale uri t := by
  cases heffect with
  | untouched hsame =>
      refine ⟨hsame.running.trans hstale.running, ?_⟩
      intro document hdocument hon
      rw [hsame.document] at hdocument
      rw [hasInterpreter, hsame.interpreter] at hon
      exact hsame.pending.trans (hstale.marked document hdocument hon)
  | asked _ =>
      rename_i documents document _
      exact isStale_submitted (s := { s with documents }) hstale.running document.text path
  | read _ => exact isStale_submitted hstale.running _ path
  | gone hnone hrunning =>
      refine ⟨hrunning.trans hstale.running, ?_⟩
      intro document hdocument
      exact absurd (hnone.symm.trans hdocument) (by simp)
  | served hserved =>
      rename_i interpreter
      have hkept : (spread s.documents { s with interpreter }).isRunning uri = true :=
        spread_keeps (P := fun t => t.isRunning uri = true)
          (fun d _ text path t ht => submitted_isRunning ht text path d.uri) hstale.running
      refine ⟨hkept, ?_⟩
      intro document hdocument _
      have hopen : s.document? uri = some document := by
        simpa [document?] using hdocument
      obtain rfl : document.uri = uri := by simpa using List.find?_some hopen
      refine spread_reaches
        (Q := fun t => t.isRunning document.uri = true ∧ t.hasInterpreter = true)
        (P := fun t => t.isPending document.uri = true)
        (List.mem_of_find?_eq_some hopen) hopen hlocated hpath hsource ?_ ?_ ?_
        ⟨hstale.running, hserved⟩
      · rintro text path uri t ⟨hrunning, hon⟩
        refine ⟨submitted_isRunning hrunning text path uri, ?_⟩
        simpa [hasInterpreter] using hon
      · exact fun text path uri t ht => submitted_isPending ht text path uri
      · exact fun t ht => submitted_isPending_self ht.1 ht.2 document.text path
  | unserved hoff hrunning =>
      refine ⟨hrunning.trans hstale.running, ?_⟩
      intro document _ hon
      exact absurd (hoff.symm.trans hon) Bool.false_ne_true

end IsStale

/-- The editor does nothing, and a run that ends has an ordinary result. -/
def Move.IsQuiet : Move → Prop
  | .event _ => False
  | .start => True
  | .finish _ _ result => IsOrdinaryResult result

theorem Move.IsQuiet.isOrdinary {m : Move} (h : m.IsQuiet) : m.IsOrdinary := by
  cases m with
  | event e => trivial
  | start => trivial
  | finish place refusal result => exact h

namespace History

variable {uri path : String} {h k : History}

/-! ### Until the run ends -/

/-- A run of a document that is not ended yet does not have its latest text. -/
def IsStaleSince (uri : String) (ended : List Ended) (h : History) : Prop :=
  h.endedOf uri = ended ∧ IsStale uri h.session ∨ ended.length < (h.endedOf uri).length

theorem IsStaleSince.of_core {ended : List Ended} (hcore : h.core = k.core)
    (hk : k.IsStaleSince uri ended) : h.IsStaleSince uri ended := by
  have hended : h.core.endedOf uri = k.core.endedOf uri := congrArg (endedOf uri) hcore
  change h.endedOf uri = k.endedOf uri at hended
  rw [IsStaleSince, hended]
  have hsession : h.core.session = k.core.session := congrArg session hcore
  exact hk.imp (fun hnow => ⟨hnow.1, hnow.2.of_core hsession⟩) id

/-- A document is stale once it has changed during its run. -/
theorem isStale_of_changed [Editor] (hpath : Uri.filePath uri = .ok path)
    (hsource : isSourcePath path = true) (hrunning : h.session.isRunning uri = true)
    (text : String) : IsStale uri (h.next (.event (.changed uri text))).session := by
  rw [History.next, Event.next, replaced_of_source hpath hsource]
  refine isStale_submitted ?_ text path
  exact hrunning

/-- A document stays marked until its run ends. -/
theorem IsStaleSince.next [Editor] {ended : List Ended} (hstale : h.IsStaleSince uri ended)
    (hpath : Uri.filePath uri = .ok path) (hsource : isSourcePath path = true)
    (hkey : Editor.key uri = uri) (hlocated : h.IsLocated) {m : Move}
    (hdistinct : m.Over fun other => HasPath other → (Editor.key other = uri ↔ other = uri)) :
    (h.next m).IsStaleSince uri ended := by
  rcases hstale with ⟨hended, hstale⟩ | hmore
  · -- No run of the document has ended yet; the one that ends is the first.
    cases m with
    | event event =>
        have heffect := Event.next_effect h.session hpath hsource hkey hdistinct
        exact .inl ⟨hended, hstale.effect hpath hsource hlocated heffect⟩
    | start =>
        simp only [History.next, takeTask?]
        cases h.session.queue with
        | nil => exact .inl ⟨hended, hstale⟩
        | cons task queue => exact .inl ⟨hended, hstale.running, hstale.marked⟩
    | finish place refusal result =>
        simp only [History.next]
        cases hplace : h.going[place]? with
        | none => exact .inl ⟨hended, hstale⟩
        | some task =>
            by_cases heq : task.uri = uri
            · right
              rw [endedOf_cons, if_pos heq, ← hended]
              simp [endedOf]
            · left
              have hsame := untouched_concluded heq result h.session
              rw [endedOf_cons, if_neg heq, List.nil_append]
              exact ⟨hended, hstale.effect hpath hsource hlocated (.untouched hsame)⟩
  · -- No move forgets a run that has ended.
    right
    refine Nat.lt_of_lt_of_le hmore ?_
    cases m with
    | event event => exact Nat.le_refl _
    | start =>
        simp only [History.next, takeTask?]
        cases h.session.queue with
        | nil => exact Nat.le_refl _
        | cons task queue => exact Nat.le_refl _
    | finish place refusal result =>
        simp only [History.next]
        cases h.going[place]? with
        | none => exact Nat.le_refl _
        | some task =>
            rw [endedOf_cons, List.length_append]
            exact Nat.le_add_left _ _

/-! ### After the run has ended -/

/-- What the runs of a document do in turn, seen from the mark of the document, the runs that are
under way and those that have ended: a first run is under way, then a last one, then none. -/
inductive Passes (first last : Task) (before : List Ended) :
    Bool → List Task → List Ended → Prop where
  | first : Passes first last before true [first] before
  | last (result : Except Invocation.Fault (List Block)) :
      Passes first last before false [last] ({ task := first, result } :: before)
  | none (result result' : Except Invocation.Fault (List Block)) :
      Passes first last before false []
        ({ task := last, result := result' } :: { task := first, result } :: before)

/-- The order of the runs that are under way does not matter, since there is at most one. -/
theorem Passes.perm {first last : Task} {before ended : List Ended} {marked : Bool}
    {underway underway' : List Task} (h : Passes first last before marked underway ended)
    (hperm : underway'.Perm underway) : Passes first last before marked underway' ended := by
  cases h with
  | first =>
      obtain rfl := List.perm_singleton.1 hperm
      exact .first
  | last result =>
      obtain rfl := List.perm_singleton.1 hperm
      exact .last result
  | none result result' =>
      obtain rfl := List.perm_nil.1 hperm
      exact .none result result'

/-- The run that is under way is the first one or the last one. -/
theorem Passes.of_singleton {first last task : Task} {before ended : List Ended} {marked : Bool}
    (h : Passes first last before marked [task] ended) :
    marked = true ∧ task = first ∧ ended = before ∨
      marked = false ∧ task = last ∧ ∃ result, ended = { task := first, result } :: before := by
  cases h with
  | first => exact .inl ⟨rfl, rfl, rfl⟩
  | last result => exact .inr ⟨rfl, rfl, result, rfl⟩

/-- **A document is run once more:** while the editor does nothing, the run that is under way ends,
then one more run with the latest text, the interpreter and the stage of now, and no other one. -/
def RunsOnceMore [Editor] (uri path : String) (h : History) : Prop :=
  ∀ document, h.session.document? (Editor.key uri) = some document →
    h.session.hasInterpreter = true →
      ∃ task, ∀ moves, (∀ m ∈ moves, Move.IsQuiet m) →
        Passes task { uri, invocation := h.session.invocation document.text path } (h.endedOf uri)
          ((h.run moves).session.isPending uri) ((h.run moves).underway uri)
          ((h.run moves).endedOf uri)

/-- The runs of a document pass in turn while the document and what it is run with stay as they were
in a session. -/
structure IsCalm (uri path : String) (document : Document) (s : Session) (first : Task)
    (before : List Ended) (h : History) : Prop where
  balanced : h.IsBalanced
  found : h.session.document? uri = some document
  interpreter : h.session.interpreter = s.interpreter
  stage : h.session.stage = s.stage
  passes : Passes first { uri, invocation := s.invocation document.text path } before
    (h.session.isPending uri) (h.underway uri) (h.endedOf uri)

/-- A document that is run once more is not marked when its run has ended. -/
theorem isPending_concluded_of_pending {document : Document} {s : Session}
    (hpath : Uri.filePath uri = .ok path) (hmarked : s.isPending uri = true)
    (hdocument : s.document? uri = some document) (hon : s.hasInterpreter = true)
    (result : Except Invocation.Fault (List Block)) :
    (s.concluded uri result).isPending uri = false := by
  rw [concluded_of_pending hpath hmarked hdocument hon result]
  exact (isPending_release uri uri _).trans (if_pos rfl)

theorem isPending_concluded_of_not_pending {s : Session} (hmarked : s.isPending uri = false)
    (result : Except Invocation.Fault (List Block)) :
    (s.concluded uri result).isPending uri = false := by
  rw [concluded_of_not_pending hmarked result]
  exact (isPending_release uri uri _).trans (if_pos rfl)

/-- The end of a run lets the runs of a document pass on. -/
theorem IsCalm.finish [Editor] {document : Document} {s : Session} {first task : Task}
    {before : List Ended} {place : Nat} (hcalm : h.IsCalm uri path document s first before)
    (hpath : Uri.filePath uri = .ok path) (hon : s.hasInterpreter = true)
    (hplace : h.going[place]? = some task) (result : Except Invocation.Fault (List Block)) :
    IsCalm uri path document s first before
      { session := h.session.concluded task.uri result
        going := h.going.eraseIdx place
        ended := { task, result } :: h.ended } := by
  have hbalanced : IsBalanced
      { session := h.session.concluded task.uri result
        going := h.going.eraseIdx place
        ended := { task, result } :: h.ended } := by
    have hnext := hcalm.balanced.next (.finish place none result)
    rwa [History.next, hplace] at hnext
  by_cases heq : task.uri = uri
  · subst heq
    obtain ⟨hqueued, hgoing⟩ := hcalm.balanced.eq_of_going hplace
    have hserved : h.session.hasInterpreter = true := by
      rw [hasInterpreter, hcalm.interpreter]
      exact hon
    have hinvocation := invocation_eq hcalm.interpreter hcalm.stage document.text path
    have hpasses := hcalm.passes
    rw [underway, hqueued, hgoing, List.nil_append] at hpasses
    have hrecorded : endedOf task.uri
        { session := h.session.concluded task.uri result
          going := h.going.eraseIdx place
          ended := { task, result } :: h.ended } = { task, result } :: h.endedOf task.uri := by
      rw [endedOf_cons, if_pos rfl]
      rfl
    refine ⟨hbalanced, ?_, ?_, ?_, ?_⟩
    · simpa [document?] using hcalm.found
    · simpa using hcalm.interpreter
    · simpa using hcalm.stage
    · rw [hcalm.balanced.underway_finish hplace, hrecorded]
      -- The run that ends is the first one, and puts the last one into the queue, or the last one.
      rcases hpasses.of_singleton with ⟨hmarked, htask, hended⟩ | ⟨hmarked, htask, earlier, hended⟩
      · have hwaiting : (h.session.concluded task.uri result).queued task.uri =
            [{ uri := task.uri, invocation := s.invocation document.text path }] := by
          rw [concluded_of_pending hpath hmarked hcalm.found hserved result, queued_enqueued,
            if_pos rfl, hinvocation]
          exact congrArg (· ++ _) hqueued
        have hreleased :=
          isPending_concluded_of_pending hpath hmarked hcalm.found hserved result
        rw [hwaiting, hreleased, hended, htask]
        exact .last result
      · have hwaiting : (h.session.concluded task.uri result).queued task.uri = [] := by
          rw [concluded_of_not_pending hmarked result]
          exact hqueued
        have hreleased := isPending_concluded_of_not_pending hmarked result
        have hlast : Ended.mk task result =
            Ended.mk { uri := task.uri, invocation := s.invocation document.text path } result :=
          congrArg (Ended.mk · result) htask
        rw [hwaiting, hreleased, hended, hlast]
        exact .none earlier result
  · have hsame := untouched_concluded heq result h.session
    refine ⟨hbalanced, hsame.document.trans hcalm.found,
      hsame.interpreter.trans hcalm.interpreter, hsame.stage.trans hcalm.stage, ?_⟩
    rw [endedOf_cons, if_neg heq, List.nil_append, underway, goingOf_eraseIdx_other hplace heq,
      hsame.queued, hsame.pending]
    exact hcalm.passes

theorem IsCalm.next [Editor] {document : Document} {s : Session} {first : Task}
    {before : List Ended} (hcalm : h.IsCalm uri path document s first before)
    (hpath : Uri.filePath uri = .ok path)
    (hon : s.hasInterpreter = true) {m : Move} (hm : m.IsQuiet) :
    (h.next m).IsCalm uri path document s first before := by
  cases m with
  | event event => exact hm.elim
  | start =>
      have hbalanced := hcalm.balanced.next .start
      simp only [History.next, takeTask?] at hbalanced ⊢
      cases hqueue : h.session.queue with
      | nil => exact hcalm
      | cons task queue =>
          rw [hqueue] at hbalanced
          refine ⟨hbalanced, hcalm.found, hcalm.interpreter, hcalm.stage, ?_⟩
          exact hcalm.passes.perm (underway_start_perm hqueue uri)
  | finish place refusal result =>
      simp only [History.next]
      cases hplace : h.going[place]? with
      | none => exact hcalm
      | some task => exact hcalm.finish hpath hon hplace result

theorem IsCalm.of_core {document : Document} {s : Session} {first : Task} {before : List Ended}
    (hcore : h.core = k.core) (hk : k.IsCalm uri path document s first before) :
    h.IsCalm uri path document s first before := by
  have hcalm : k.core.IsCalm uri path document s first before :=
    ⟨IsBalanced.of_core (h := k.core) (k := k) rfl hk.balanced, hk.found, hk.interpreter, hk.stage,
      hk.passes⟩
  rw [← hcore] at hcalm
  exact ⟨hk.balanced.of_core hcore, hcalm.found, hcalm.interpreter, hcalm.stage, hcalm.passes⟩

/-- **A document that is marked during its run is run exactly once more.** -/
theorem runsOnceMore_of_isStale [Editor] (hbalanced : h.IsBalanced)
    (hpath : Uri.filePath uri = .ok path)
    (hkey : Editor.key uri = uri) (hstale : IsStale uri h.session) : h.RunsOnceMore uri path := by
  intro document hdocument hon
  rw [hkey] at hdocument
  have hmarked := hstale.marked document hdocument hon
  have hcount : (h.underway uri).length = 1 := by
    rw [underway, List.length_append, (hbalanced uri).count, hstale.running, Bool.toNat_true]
  obtain ⟨task, htask⟩ := List.length_eq_one_iff.1 hcount
  refine ⟨task, ?_⟩
  intro moves hmoves
  have hstart : h.IsCalm uri path document h.session task (h.endedOf uri) := by
    refine ⟨hbalanced, hdocument, rfl, rfl, ?_⟩
    rw [hmarked, htask]
    exact .first
  have hend := run_invariant
    (P := fun k => k.IsCalm uri path document h.session task (h.endedOf uri))
    (fun _ hm => hm.isOrdinary)
    (fun _ _ hcore hk => hk.of_core hcore) (fun k m hm hk => hk.next hpath hon hm) hstart hmoves
  exact hend.passes

end History

end JitExplorer.Session
