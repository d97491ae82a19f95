/-
**Histories of the server.**

What the editor does is handled as a whole, one event after another.  In between, runs are taken
from the queue and come to an end, in any order and with any outcome.  A history is a state of the
server together with the runs that are going and the runs that have ended; a move takes a history to
the next one.

Main definitions:

* `Session.Event`, `Session.Event.act` — what the editor does, and how the server handles it;
* `Session.History`, `Session.Move`, `Session.History.move` — histories and their moves;
* `Session.History.underway` — the runs of a document that were submitted and have not ended;
* `Session.Balanced` — as many runs of a document are under way as the server believes.

Main results:

* `Session.Event.act_core` — what an event does to the core of a session;
* `Session.History.move_core` — what a move does to the core of a history;
* `Session.History.IsReachable.isBalanced` — every reachable history is balanced, so that a document
  has at most one run under way, and a marked document has one.
-/

import JitExplorer.Proofs.Session.Effects

set_option autoImplicit false

namespace JitExplorer.Session

/-! ### Events -/

/-- What the editor does. -/
inductive Event where
  | opened (uri text : String)
  | changed (uri text : String)
  /-- A document is saved; if it is not open, its reading comes to this. -/
  | saved (uri : String) (reading : Except Failure String)
  | closed (uri : String)
  /-- The interpreter is named; the editor may refuse to refresh its hints. -/
  | named (refusal : Option Failure) (interpreter : Datum)

section Act

variable [Editor]

/-- How the server handles what the editor does. -/
def Event.act : Event → Act Session Unit
  | .opened uri text => openDocument uri text
  | .changed uri text => changeDocument uri text
  | .saved uri reading => saveDocument reading uri
  | .closed uri => closeDocument uri
  | .named refusal interpreter => changeInterpreter refusal interpreter

/-- What becomes of the core of a session. -/
def Event.next : Event → Session → Session
  | .opened uri text => replaced uri text
  | .changed uri text => replaced uri text
  | .saved uri reading => handled reading uri
  | .closed uri => Session.closed uri
  | .named _ interpreter => Session.named interpreter

theorem Event.act_core (event : Event) (s : Session) :
    (event.act s).2.core = (event.next s).core := by
  cases event with
  | opened uri text => exact openDocument_core uri text s
  | changed uri text => exact changeDocument_core uri text s
  | saved uri reading => exact saveDocument_core reading uri s
  | closed uri => exact closeDocument_core uri s
  | named refusal interpreter => exact changeInterpreter_core refusal interpreter s

theorem Event.next_congr (event : Event) {s t : Session} (h : s.core = t.core) :
    (event.next s).core = (event.next t).core := by
  cases event with
  | opened uri text => exact replaced_congr uri text h
  | changed uri text => exact replaced_congr uri text h
  | saved uri reading => exact handled_congr reading uri h
  | closed uri => exact congrArg (Session.closed uri) h
  | named refusal interpreter => exact named_congr interpreter h

end Act

/-- The editor writes only the given URIs. -/
def Event.Over (uris : String → Prop) : Event → Prop
  | .opened uri _ => uris uri
  | .changed uri _ => uris uri
  | .saved uri _ => uris uri
  | .closed uri => uris uri
  | .named _ _ => True

/-! ### Histories -/

/-- The runs of a document in the queue. -/
def queued (uri : String) (s : Session) : List Task :=
  s.queue.filter fun task => task.uri == uri

/-- A run that has ended, with its result. -/
structure Ended where
  task : Task
  result : Except Invocation.Fault (List Block)

/-- A state of the server with its runs: those that were taken from the queue and are going, and
those that have ended, the last one first. -/
structure History where
  session : Session
  going : List Task := []
  ended : List Ended := []

/-- One step of a history. -/
inductive Move where
  /-- The editor does something. -/
  | event (event : Event)
  /-- The first run of the queue is started. -/
  | start
  /-- The run at a place among the going ones ends. -/
  | finish (place : Nat) (refusal : Option Failure)
      (result : Except Invocation.Fault (List Block))

/-- The editor writes only the given URIs, and runs end with ordinary results. -/
def Move.Over (uris : String → Prop) : Move → Prop
  | .event e => e.Over uris
  | .start => True
  | .finish _ _ result => IsOrdinaryResult result

/-- A run that ends, if one does, has an ordinary result. -/
def Move.IsOrdinary : Move → Prop
  | .event _ => True
  | .start => True
  | .finish _ _ result => IsOrdinaryResult result

theorem Move.Over.isOrdinary {uris : String → Prop} {m : Move} (h : m.Over uris) :
    m.IsOrdinary := by
  cases m with
  | event e => trivial
  | start => trivial
  | finish place refusal result => exact h

namespace History

section Moves

variable [Editor]

/-- **One step of a history.**  There may be no run to start or to end. -/
def move (h : History) : Move → History
  | .event event => { h with session := (event.act h.session).2 }
  | .start =>
      match takeTask? h.session with
      | none => h
      | some (task, s) => { h with session := (begin task s).2, going := h.going ++ [task] }
  | .finish place refusal result =>
      match h.going[place]? with
      | none => h
      | some task =>
          { session := (conclude task.uri refusal result h.session).2
            going := h.going.eraseIdx place
            ended := { task, result } :: h.ended }

/-- Several steps of a history. -/
def run (h : History) (moves : List Move) : History :=
  moves.foldl move h

theorem run_concat (h : History) (moves : List Move) (m : Move) :
    h.run (moves ++ [m]) = (h.run moves).move m := by
  simp [run, List.foldl_append]

end Moves

/-- The history of a server that was just started with some interpreter and stage. -/
def fresh (interpreter stage : Datum) : History where
  session := { interpreter, stage }

/-- A history that a server can come to while the editor writes only the given URIs. -/
def IsReachable [Editor] (uris : String → Prop) (h : History) : Prop :=
  ∃ interpreter stage moves, (∀ m ∈ moves, Move.Over uris m) ∧
    h = (fresh interpreter stage).run moves

/-- The runs of a document that were taken from the queue. -/
def goingOf (uri : String) (h : History) : List Task :=
  h.going.filter fun task => task.uri == uri

/-- The runs of a document that were submitted and have not ended. -/
def underway (uri : String) (h : History) : List Task :=
  h.session.queued uri ++ h.goingOf uri

/-- The runs of a document that have ended, the last one first. -/
def endedOf (uri : String) (h : History) : List Ended :=
  h.ended.filter fun ended => ended.task.uri == uri

/-- A run that ends is recorded. -/
theorem endedOf_cons (uri : String) (session : Session) (going : List Task) (ended : Ended)
    (others : List Ended) :
    endedOf uri { session, going, ended := ended :: others } =
      (if ended.task.uri = uri then [ended] else []) ++
        endedOf uri { session, going, ended := others } := by
  by_cases heq : ended.task.uri = uri
  · simp [endedOf, heq]
  · simp [endedOf, heq]

/-! ### Histories without what was logged and told -/

/-- A history without what was logged and told. -/
def core (h : History) : History :=
  { h with session := h.session.core }

section Core

variable [Editor]

/-- What becomes of the core of a history. -/
def next (h : History) : Move → History
  | .event event => { h with session := event.next h.session }
  | .start =>
      match takeTask? h.session with
      | none => h
      | some (task, s) => { h with session := s, going := h.going ++ [task] }
  | .finish place _ result =>
      match h.going[place]? with
      | none => h
      | some task =>
          { session := h.session.concluded task.uri result
            going := h.going.eraseIdx place
            ended := { task, result } :: h.ended }

theorem next_congr {h k : History} (hcore : h.core = k.core) (m : Move) :
    (h.next m).core = (k.next m).core := by
  obtain ⟨s, going, ended⟩ := h
  obtain ⟨t, going', ended'⟩ := k
  obtain ⟨hs, rfl, rfl⟩ : s.core = t.core ∧ going = going' ∧ ended = ended' := by
    simpa only [core, History.mk.injEq] using hcore
  cases m with
  | event event => exact congrArg (fun r => History.mk r going ended) (event.next_congr hs)
  | start =>
      have hqueue : s.core.queue = t.core.queue := congrArg queue hs
      change s.queue = t.queue at hqueue
      -- Both sessions have one queue, but differ in what was logged and told.
      simp only [next, takeTask?, hqueue]
      cases t.queue with
      | nil => exact hcore
      | cons task queue =>
          exact congrArg (fun r : Session => History.mk { r with queue } (going ++ [task]) ended) hs
  | finish place refusal result =>
      simp only [next]
      cases going[place]? with
      | none => exact hcore
      | some task =>
          exact congrArg (fun r => History.mk r (going.eraseIdx place) ({ task, result } :: ended))
            (concluded_congr task.uri result hs)

/-- **A step of a history in its core.** -/
theorem move_core (h : History) {m : Move} (hm : m.IsOrdinary) :
    (h.move m).core = (h.next m).core := by
  cases m with
  | event event =>
      exact congrArg (fun r => History.mk r h.going h.ended) (event.act_core h.session)
  | start =>
      simp only [move, next]
      cases takeTask? h.session with
      | none => rfl
      | some taken => rfl
  | finish place refusal result =>
      simp only [move, next]
      cases h.going[place]? with
      | none => rfl
      | some task =>
          exact congrArg (fun r => History.mk r (h.going.eraseIdx place)
            ({ task, result } :: h.ended)) (conclude_core task.uri refusal hm h.session)

/-- Several steps of a history in its core. -/
theorem run_core {h k : History} (hcore : k.core = h.core) {moves : List Move}
    (hmoves : ∀ m ∈ moves, m.IsOrdinary) : (k.run moves).core = (moves.foldl next h).core := by
  induction moves generalizing h k with
  | nil => exact hcore
  | cons m moves ih =>
      obtain ⟨hm, hmoves⟩ := List.forall_mem_cons.1 hmoves
      exact ih ((move_core k hm).trans (next_congr hcore m)) hmoves

/-- What every step keeps and depends on the core alone is kept by several steps. -/
theorem run_invariant {A : Move → Prop} {P : History → Prop} (hA : ∀ m, A m → m.IsOrdinary)
    (hcore : ∀ h k : History, h.core = k.core → P k → P h)
    (hnext : ∀ h m, A m → P h → P (h.next m)) {h : History} (hh : P h)
    {moves : List Move} (hmoves : ∀ m ∈ moves, A m) : P (h.run moves) := by
  induction moves generalizing h with
  | nil => exact hh
  | cons m moves ih =>
      obtain ⟨hm, hmoves⟩ := List.forall_mem_cons.1 hmoves
      exact ih (hcore _ _ (move_core h (hA m hm)) (hnext h m hm hh)) hmoves

/-- What holds of a fresh history, is kept by every step and depends on the core alone holds of
every reachable history. -/
theorem IsReachable.invariant {uris : String → Prop} {P : History → Prop}
    (hcore : ∀ h k : History, h.core = k.core → P k → P h)
    (hfresh : ∀ interpreter stage, P (fresh interpreter stage))
    (hnext : ∀ h m, Move.Over uris m → P h → P (h.next m))
    {h : History} (hreach : h.IsReachable uris) : P h := by
  obtain ⟨interpreter, stage, moves, hmoves, rfl⟩ := hreach
  exact run_invariant (fun _ hm => hm.isOrdinary) hcore hnext (hfresh interpreter stage) hmoves

end Core

end History

/-! ### What changes for one document only -/

section Keeps

variable {P : Session → Prop} {uri : String}

/-- A property that asking for a run keeps is kept by running the latest text. -/
theorem reran_keeps (h : ∀ text path s, P s → P (s.submitted text path uri)) {s : Session}
    (hs : P s) : P (s.reran uri) := by
  unfold reran
  split
  · exact h _ _ _ hs
  · exact hs

/-- A property that asking for a run keeps is kept by the end of a run, once the result is kept and
the document is released. -/
theorem concluded_keeps (h : ∀ text path s, P s → P (s.submitted text path uri))
    {result : Except Invocation.Fault (List Block)} {s : Session}
    (hs : P ((s.store uri (resultBlocks result) (resultDiagnostics result)).release uri)) :
    P (s.concluded uri result) := by
  unfold concluded finished
  split
  · exact reran_keeps h hs
  · exact hs

/-- A property that asking for a run keeps is kept when a document changed in some way. -/
theorem handled_keeps [Editor] (h : ∀ text path s, P s → P (s.submitted text path uri))
    {reading : Except Failure String} {s : Session} (hs : P s) : P (s.handled reading uri) := by
  unfold handled
  split
  · exact hs
  · split
    · split
      · exact h _ _ _ hs
      · exact hs
    · exact hs

/-- A property that asking for runs keeps is kept when several documents are run. -/
theorem spread_keeps {documents : List Document}
    (h : ∀ d ∈ documents, ∀ text path s, P s → P (s.submitted text path d.uri)) {s : Session}
    (hs : P s) : P (s.spread documents) := by
  induction documents generalizing s with
  | nil => exact hs
  | cons document documents ih =>
      have hrest := fun t => ih (s := t) fun d hd => h d (List.mem_cons_of_mem document hd)
      simp only [spread]
      -- The document has no path, or it is run if it is a source and the others come next.
      split
      · exact hs
      · refine hrest _ ?_
        split
        · exact h document (by simp) _ _ _ hs
        · exact hs

end Keeps

/-! ### As many runs as the server believes -/

/-- A document has as many runs under way as the server believes, where some of them are going, and
it is marked only if it has one. -/
structure Balanced (uri : String) (going : Nat) (s : Session) : Prop where
  count : (s.queued uri).length + going = (s.isRunning uri).toNat
  pending : s.isPending uri = true → s.isRunning uri = true

theorem isRunning_set (uri other : String) (b : Bool) (s : Session) :
    ({ s with running := s.running.set other b } : Session).isRunning uri =
      if other = uri then b else s.isRunning uri := by
  simp only [isRunning, Table.get?_set]
  split <;> rfl

theorem isPending_set (uri other : String) (b : Bool) (s : Session) :
    ({ s with pending := s.pending.set other b } : Session).isPending uri =
      if other = uri then b else s.isPending uri := by
  simp only [isPending, Table.get?_set]
  split <;> rfl

theorem isPending_erase (uri other : String) (s : Session) :
    ({ s with pending := s.pending.erase other } : Session).isPending uri =
      if other = uri then false else s.isPending uri := by
  simp only [isPending, Table.get?_erase]
  split <;> rfl

theorem isRunning_enqueued (uri other : String) (invocation : Invocation) (s : Session) :
    (s.enqueued other invocation).isRunning uri = if other = uri then true else s.isRunning uri :=
  isRunning_set uri other true s

theorem isPending_marked (uri other : String) (s : Session) :
    (s.marked other).isPending uri = if other = uri then true else s.isPending uri :=
  isPending_set uri other true s

theorem isRunning_release (uri other : String) (s : Session) :
    (s.release other).isRunning uri = if other = uri then false else s.isRunning uri :=
  isRunning_set uri other false s

theorem isPending_release (uri other : String) (s : Session) :
    (s.release other).isPending uri = if other = uri then false else s.isPending uri :=
  isPending_erase uri other s

theorem isPending_closed [Editor] (uri other : String) (s : Session) :
    (s.closed other).isPending uri = if other = uri then false else s.isPending uri :=
  isPending_erase uri other s

theorem queued_enqueued (uri other : String) (invocation : Invocation) (s : Session) :
    (s.enqueued other invocation).queued uri =
      s.queued uri ++ if other = uri then [Task.mk uri invocation] else [] := by
  by_cases h : other = uri
  · subst h
    simp [queued, enqueued]
  · simp [queued, enqueued, h]

section Balanced

variable {uri other : String} {going : Nat} {s t : Session}

/-- Balance depends on the core alone. -/
theorem Balanced.of_core (h : s.core = t.core) (ht : Balanced uri going t) :
    Balanced uri going s := by
  have hqueue : s.core.queue = t.core.queue := congrArg queue h
  have hrunning : s.core.running = t.core.running := congrArg Session.running h
  have hpending : s.core.pending = t.core.pending := congrArg Session.pending h
  change s.queue = t.queue at hqueue
  change s.running = t.running at hrunning
  change s.pending = t.pending at hpending
  refine ⟨?_, ?_⟩
  · simpa only [queued, isRunning, hqueue, hrunning] using ht.count
  · simpa only [isPending, isRunning, hpending, hrunning] using ht.pending

/-- What is marked has a run under way. -/
theorem Balanced.marked (h : Balanced uri going s) (hother : s.isRunning other = true) :
    Balanced uri going (s.marked other) := by
  refine ⟨h.count, ?_⟩
  intro hpending
  rw [isPending_marked] at hpending
  by_cases heq : other = uri
  · subst heq
    exact hother
  · rw [if_neg heq] at hpending
    exact h.pending hpending

/-- A mark that is taken away does not matter. -/
theorem Balanced.unmarked (h : Balanced uri going s) (other : String) :
    Balanced uri going { s with pending := s.pending.erase other } := by
  refine ⟨h.count, ?_⟩
  intro hpending
  rw [isPending_erase] at hpending
  split at hpending
  · exact absurd hpending Bool.false_ne_true
  · exact h.pending hpending

/-- A document that has no run is given one. -/
theorem Balanced.claimed (h : Balanced uri going s) (hother : s.isRunning other = false) :
    Balanced uri (going + (other == uri).toNat) { s with running := s.running.set other true } := by
  have hcount := h.count
  refine ⟨?_, ?_⟩
  · have hqueued : ({ s with running := s.running.set other true } : Session).queued uri =
        s.queued uri := rfl
    rw [isRunning_set, hqueued]
    by_cases heq : other = uri
    · subst heq
      rw [hother, Bool.toNat_false] at hcount
      simp only [beq_self_eq_true, if_true, Bool.toNat_true]
      omega
    · have hno : (other == uri) = false := beq_false_of_ne heq
      rwa [if_neg heq, hno, Bool.toNat_false, Nat.add_zero]
  · intro hpending
    rw [isRunning_set]
    split
    · rfl
    · exact h.pending hpending

/-- A run is put into the queue. -/
theorem Balanced.put {task : Task} (h : Balanced uri (going + (task.uri == uri).toNat) s) :
    Balanced uri going { s with queue := s.queue ++ [task] } := by
  have hcount := h.count
  refine ⟨?_, h.pending⟩
  have hqueued : (({ s with queue := s.queue ++ [task] } : Session).queued uri).length =
      (s.queued uri).length + (task.uri == uri).toNat := by
    rw [queued, queued, List.filter_append, List.length_append]
    by_cases heq : task.uri = uri
    · simp [heq]
    · simp [heq]
  have hrunning : ({ s with queue := s.queue ++ [task] } : Session).isRunning uri =
      s.isRunning uri := rfl
  rw [hqueued, hrunning]
  omega

/-- A run that is taken from the queue is going. -/
theorem Balanced.taken {task : Task} {queue : List Task} (h : Balanced uri going s)
    (hqueue : s.queue = task :: queue) :
    Balanced uri (going + (task.uri == uri).toNat) { s with queue } := by
  have hcount := h.count
  refine ⟨?_, h.pending⟩
  have hqueued : (s.queued uri).length =
      (({ s with queue } : Session).queued uri).length + (task.uri == uri).toNat := by
    rw [queued, queued, hqueue]
    by_cases heq : task.uri = uri
    · simp [heq]
    · simp [heq]
  have hrunning : ({ s with queue } : Session).isRunning uri = s.isRunning uri := rfl
  rw [hrunning]
  omega

/-- A run is put into the queue only if there is none. -/
theorem Balanced.enqueued (h : Balanced uri going s) (hother : s.isRunning other = false)
    (invocation : Invocation) : Balanced uri going (s.enqueued other invocation) := by
  have hclaimed : Balanced uri (going + ((Task.mk other invocation).uri == uri).toNat)
      { s with running := s.running.set other true } := h.claimed hother
  exact hclaimed.put

/-- Asking for a run keeps the balance of every document. -/
theorem Balanced.submitted (h : Balanced uri going s) (text path other : String) :
    Balanced uri going (s.submitted text path other) :=
  submitted_cases h.marked (fun hother => h.enqueued hother _) ⟨h.count, h.pending⟩

/-- What the editor does keeps the balance of every document. -/
theorem Balanced.next [Editor] (h : Balanced uri going s) (event : Event) :
    Balanced uri going (event.next s) := by
  have hsubmitted : ∀ other text path s, Balanced uri going s →
      Balanced uri going (s.submitted text path other) :=
    fun other text path s hs => hs.submitted text path other
  have hreplaced : ∀ other text, Balanced uri going (s.replaced other text) := by
    intro other text
    unfold replaced
    split
    · exact h
    · exact handled_keeps (hsubmitted other) ⟨h.count, h.pending⟩
  cases event with
  | opened other text => exact hreplaced other text
  | changed other text => exact hreplaced other text
  | saved other reading => exact handled_keeps (hsubmitted other) h
  | closed other => exact ⟨h.count, (h.unmarked other).pending⟩
  | named refusal interpreter =>
      simp only [Event.next, Session.named]
      split
      · exact spread_keeps (fun d _ => hsubmitted d.uri) ⟨h.count, h.pending⟩
      · exact ⟨h.count, h.pending⟩

/-- A run that is released leaves the balance with one run less. -/
theorem Balanced.released (h : Balanced uri (going + 1) s) :
    Balanced uri going (s.release uri) := by
  have hcount := h.count
  have hbound := Bool.toNat_le (s.isRunning uri)
  refine ⟨?_, ?_⟩
  · have hqueued : (s.release uri).queued uri = s.queued uri := rfl
    rw [release_running, hqueued, Bool.toNat_false]
    omega
  · intro hpending
    rw [isPending_release, if_pos rfl] at hpending
    exact absurd hpending Bool.false_ne_true

/-- The release of another document does not matter. -/
theorem Balanced.released_other (h : Balanced uri going s) (hne : other ≠ uri) :
    Balanced uri going (s.release other) := by
  have hrunning := (isRunning_release uri other s).trans (if_neg hne)
  have hpending := (isPending_release uri other s).trans (if_neg hne)
  refine ⟨?_, ?_⟩
  · rw [hrunning]
    exact h.count
  · rw [hrunning, hpending]
    exact h.pending

/-- The end of a run takes it from the balance. -/
theorem Balanced.concluded (h : Balanced uri (going + 1) s)
    (result : Except Invocation.Fault (List Block)) :
    Balanced uri going (s.concluded uri result) := by
  have hstored : Balanced uri (going + 1)
      (s.store uri (resultBlocks result) (resultDiagnostics result)) := ⟨h.count, h.pending⟩
  exact concluded_keeps (fun text path s hs => hs.submitted text path uri) hstored.released

/-- The end of a run of another document does not matter. -/
theorem Balanced.concluded_other (h : Balanced uri going s) (hne : other ≠ uri)
    (result : Except Invocation.Fault (List Block)) :
    Balanced uri going (s.concluded other result) := by
  have hstored : Balanced uri going
      (s.store other (resultBlocks result) (resultDiagnostics result)) := ⟨h.count, h.pending⟩
  exact concluded_keeps (fun text path s hs => hs.submitted text path other)
    (hstored.released_other hne)

end Balanced

namespace History

/-- An element of a list stands between the others, also when it is taken out or replaced. -/
theorem exists_append_of_getElem? {α : Type} {l : List α} {i : Nat} {a : α} (h : l[i]? = some a) :
    ∃ front back, l = front ++ a :: back ∧ l.eraseIdx i = front ++ back ∧
      ∀ b, l.set i b = front ++ b :: back := by
  obtain ⟨hi, ha⟩ := List.getElem?_eq_some_iff.1 h
  refine ⟨l.take i, l.drop (i + 1), ?_, List.eraseIdx_eq_take_drop_succ l i, fun b => ?_⟩
  · rw [← ha, List.getElem_cons_drop, List.take_append_drop]
  · rw [List.set_eq_take_append_cons_drop, if_pos hi]

variable {h : History} {uri : String} {place : Nat} {task : Task}

/-- A run that ends takes its place among the runs of its document. -/
theorem length_goingOf_eraseIdx (hplace : h.going[place]? = some task) (huri : task.uri = uri)
    (session : Session) (ended : List Ended) :
    (h.goingOf uri).length =
      (goingOf uri { session, going := h.going.eraseIdx place, ended }).length + 1 := by
  obtain ⟨front, back, hgoing, herased, -⟩ := exists_append_of_getElem? hplace
  simp only [goingOf, herased]
  rw [hgoing]
  simp [huri]
  omega

/-- A run that ends does not matter for other documents. -/
theorem goingOf_eraseIdx_other (hplace : h.going[place]? = some task) (huri : task.uri ≠ uri)
    (session : Session) (ended : List Ended) :
    goingOf uri { session, going := h.going.eraseIdx place, ended } = h.goingOf uri := by
  obtain ⟨front, back, hgoing, herased, -⟩ := exists_append_of_getElem? hplace
  simp only [goingOf, herased]
  rw [hgoing]
  simp [huri]

/-- No run of a document is going that has none. -/
theorem uri_ne_of_goingOf_eq_nil (hgoing : h.goingOf uri = [])
    (hplace : h.going[place]? = some task) : task.uri ≠ uri := by
  have hmem : task ∈ h.going := List.mem_of_getElem? hplace
  simpa using List.filter_eq_nil_iff.1 hgoing task hmem

/-- A run that is started is still under way. -/
theorem underway_start_perm {task : Task} {queue : List Task}
    (hqueue : h.session.queue = task :: queue) (uri : String) :
    (underway uri { h with session := { h.session with queue }, going := h.going ++ [task] }).Perm
      (h.underway uri) := by
  have hperm : (queue ++ (h.going ++ [task])).Perm (h.session.queue ++ h.going) := by
    rw [hqueue, ← List.append_assoc]
    exact List.perm_append_singleton task (queue ++ h.going)
  simpa only [underway, queued, goingOf, List.filter_append] using
    hperm.filter fun task => task.uri == uri

/-- Every document has as many runs under way as the server believes. -/
def IsBalanced (h : History) : Prop :=
  ∀ uri, Balanced uri (h.goingOf uri).length h.session

theorem IsBalanced.of_core {h k : History} (hcore : h.core = k.core) (hk : k.IsBalanced) :
    h.IsBalanced := by
  intro uri
  have hsession : h.core.session = k.core.session := congrArg session hcore
  have hgoing : h.core.going = k.core.going := congrArg going hcore
  change h.going = k.going at hgoing
  refine Balanced.of_core hsession ?_
  simpa only [goingOf, hgoing] using hk uri

theorem IsBalanced.next [Editor] (hb : h.IsBalanced) (m : Move) : (h.next m).IsBalanced := by
  intro uri
  cases m with
  | event event => exact (hb uri).next event
  | start =>
      simp only [History.next, takeTask?]
      cases hqueue : h.session.queue with
      | nil => exact hb uri
      | cons task queue =>
          -- The run that starts leaves the queue, and is counted among the going ones from now on.
          have hlength := (underway_start_perm hqueue uri).length_eq
          simp only [underway, List.length_append] at hlength
          exact ⟨hlength.trans (hb uri).count, (hb uri).pending⟩
  | finish place refusal result =>
      simp only [History.next]
      cases hplace : h.going[place]? with
      | none => exact hb uri
      | some task =>
          by_cases huri : task.uri = uri
          · subst huri
            refine Balanced.concluded ?_ result
            rw [← length_goingOf_eraseIdx hplace rfl]
            exact hb task.uri
          · refine Balanced.concluded_other ?_ huri result
            rw [goingOf_eraseIdx_other hplace huri]
            exact hb uri

theorem isBalanced_fresh (interpreter stage : Datum) : (fresh interpreter stage).IsBalanced :=
  fun _ => ⟨rfl, fun hpending => absurd hpending Bool.false_ne_true⟩

/-- **Every reachable history is balanced.** -/
theorem IsReachable.isBalanced [Editor] {uris : String → Prop} (hreach : h.IsReachable uris) :
    h.IsBalanced :=
  hreach.invariant (P := IsBalanced) (fun _ _ hcore hk => hk.of_core hcore) isBalanced_fresh
    fun _ m _ hb => hb.next m

end History

end JitExplorer.Session
