/-
**The chronicle of a document.**

A chronicle is the server with its threads, and beside it the past of one document.  The document is
served while it is open under its one URI, with an interpreter, and its results are ordinary.

While a document is served, every thread has an errand for it, and what the server knows of it
agrees with its past: runs are started one after another, each with the text of its version, what is
kept is the result of the last one, and the newest version has been given a run or is promised one.

Main definitions:

* `Session.Chronicle`, `Session.Chronicle.turn` — chronicles and their turns;
* `Session.Turn.Serves` — a turn keeps a document served;
* `Session.Chronicle.IsReachable` — the chronicles that the server can come to;
* `Session.Chronicle.IsSound` — what holds of all threads and the past of the document.

Main results:

* `Session.Chronicle.IsSound.turn` — every turn that serves the document keeps its chronicle sound;
* `Session.Chronicle.IsSound.settled` — **in the end** the newest version was given a run, and what
  is kept is the result of the last run.
-/

import JitExplorer.Proofs.Session.Errand
import Mathlib.Algebra.Order.BigOperators.Group.List
import Mathlib.Algebra.Order.Ring.Nat

set_option autoImplicit false

namespace JitExplorer.Session

/-! ### Documents that are served -/

/-- What the editor does keeps a document served that was given some texts: nothing but its URI
leads to it, it is not closed, there is an interpreter, and it is not saved before it is open,
unless it cannot be read. -/
def Event.Serves [Editor] (uri : String) (given : List String) : Event → Prop
  | .opened other _ => Editor.key other = uri → other = uri
  | .changed other _ => Editor.key other = uri → other = uri
  | .saved other reading => other = uri → reading.isOk = true → given ≠ []
  | .closed other => Editor.key other ≠ uri
  | .named _ interpreter => interpreter.isOn = true

/-- **A turn keeps a document served** that was given some texts. -/
def Turn.Serves [Editor] (uri : String) (given : List String) : Turn → Prop
  | .request (.event event) => event.Serves uri given
  | .request (.hints _ _ _ _) => True
  | .main _ => True
  | .take => True
  | .work _ answer => IsOrdinaryResult answer.result

/-- A request is an errand of the main thread. -/
theorem Request.errand [Editor] {uri : String} (hplain : IsPlainSource uri) {request : Request}
    {r : Record} (h : (Turn.request request).Serves uri r.given) (a : Side) (l : Lookup) :
    Errand uri false a r l request.pieces := by
  have hcalm : ∀ piece, IsCalm uri r false piece → Errand uri false a r l [piece] :=
    fun piece hpiece => .calm (List.forall_mem_singleton.2 hpiece)
  have hreplacing : ∀ event other text, (Editor.key other = uri → other = uri) →
      Errand uri false a r l [.replace event other text] := by
    intro event other text hother
    by_cases hkey : Editor.key other = uri
    · obtain rfl := hother hkey
      exact .replacing rfl
    · exact hcalm _ (.aside (by simp [Piece.isAside, hkey]))
  cases request with
  | hints other first last reading => exact hcalm _ (.aside rfl)
  | event e =>
      cases e with
      | opened other text => exact hreplacing _ other text h
      | changed other text => exact hreplacing _ other text h
      | saved other reading =>
          by_cases hother : other = uri
          · exact .heading (by simp [Piece.isHeading, hother]) (h hother) (by simp)
          · exact hcalm _ (.aside (by simp [Piece.isAside, hother]))
      | closed other =>
          have hkey : Editor.key other ≠ uri := h
          exact hcalm _ (.aside (by simp [Piece.isAside, hkey]))
      | named refusal interpreter => exact hcalm _ (.name h)

namespace Machine

variable {m : Machine} {uri : String}

/-- The other threads beside one of them. -/
theorem heldBy_eq {front back : List (List Piece)} {pieces : List Piece}
    (hthreads : m.threads = front ++ pieces :: back) :
    m.heldBy uri = ((front ++ back).map (held uri)).sum + held uri pieces := by
  rw [heldBy, hthreads]
  simp only [List.map_append, List.map_cons, List.sum_append, List.sum_cons]
  omega

theorem held_le_sum (uri : String) {threads : List (List Piece)} {pieces : List Piece}
    (h : pieces ∈ threads) : held uri pieces ≤ (threads.map (held uri)).sum :=
  List.le_sum_of_mem (List.mem_map_of_mem h)

/-- No other thread holds a document that a thread holds or that has no run under way. -/
theorem IsSound.held_other (h : m.IsSound) {front back : List (List Piece)} {pieces : List Piece}
    (hthreads : m.threads = front ++ pieces :: back)
    (halone : m.session.isRunning uri = false ∨ 0 < held uri pieces) {other : List Piece}
    (hother : other ∈ front ++ back) : held uri other = 0 := by
  have hcount := (h.balanced uri).count
  rw [heldBy_eq hthreads] at hcount
  have hle := held_le_sum uri hother
  have hbound := Bool.toNat_le (m.session.isRunning uri)
  rcases halone with hrunning | hheld
  · rw [hrunning, Bool.toNat_false] at hcount
    omega
  · omega

/-- All threads have come to an end, and nothing is in the queue. -/
structure IsIdle (m : Machine) : Prop where
  main : m.main = []
  workers : ∀ pieces ∈ m.workers, pieces = []
  queue : m.session.queue = []

end Machine

/-! ### Chronicles -/

/-- The server with its threads, and the past of a document. -/
structure Chronicle where
  machine : Machine
  record : Record := {}
  /-- The last look-up of the main thread. -/
  lookup : Lookup := {}
  /-- The last look-up of each worker. -/
  lookups : Nat → Lookup := fun _ => {}

namespace Chronicle

/-- **One turn of the server,** with what is noted about a document. -/
def turn [Editor] (uri : String) (c : Chronicle) (t : Turn) : Chronicle :=
  let s := c.machine.session
  match t with
  | .request _ => { c with machine := c.machine.turn t }
  | .main answer =>
      { c with
        machine := c.machine.turn t
        record := c.record.noted uri false c.lookup answer s c.machine.main
        lookup := c.record.looked c.lookup c.machine.main }
  | .take =>
      { c with
        machine := c.machine.turn t
        record := c.record.taken uri s.queue }
  | .work place answer =>
      match c.machine.workers[place]? with
      | none => c
      | some pieces =>
          { c with
            machine := c.machine.turn t
            record := c.record.noted uri true (c.lookups place) answer s pieces
            lookups := fun other =>
              if other = place then c.record.looked (c.lookups place) pieces
              else c.lookups other }

/-- Several turns of the server. -/
def run [Editor] (uri : String) (c : Chronicle) (turns : List Turn) : Chronicle :=
  turns.foldl (turn uri) c

/-- The chronicle of a server that was just started with some interpreter and stage. -/
def fresh (interpreter stage : Datum) : Chronicle where
  machine := .fresh interpreter stage

variable {uri : String} {c : Chronicle}

/-- A chronicle only takes notes. -/
theorem machine_turn [Editor] (uri : String) (c : Chronicle) (t : Turn) :
    (c.turn uri t).machine = c.machine.turn t := by
  cases t with
  | request request => rfl
  | main answer => rfl
  | take => rfl
  | work place answer =>
      simp only [turn, Machine.turn]
      cases c.machine.workers[place]? with
      | none => rfl
      | some pieces => rfl

theorem machine_run [Editor] (uri : String) (c : Chronicle) (turns : List Turn) :
    (c.run uri turns).machine = c.machine.run turns := by
  induction turns generalizing c with
  | nil => rfl
  | cons t turns ih =>
      exact (ih (c.turn uri t)).trans (congrArg (Machine.run · turns) (machine_turn uri c t))

theorem turn_work [Editor] {place : Nat} {pieces : List Piece}
    (hplace : c.machine.workers[place]? = some pieces) (answer : Answer) :
    c.turn uri (.work place answer) =
      { c with
        machine := { c.machine with
          session := (advance answer (pieces, c.machine.session)).2
          workers := c.machine.workers.set place (advance answer (pieces, c.machine.session)).1 }
        record := c.record.noted uri true (c.lookups place) answer c.machine.session pieces
        lookups := fun other =>
          if other = place then c.record.looked (c.lookups place) pieces
          else c.lookups other } := by
  simp only [turn, Machine.turn, hplace]

/-- Some thread is about to look up the newest text of the document, or to ask for a run of it. -/
def IsCovered (uri : String) (c : Chronicle) : Prop :=
  Covers uri c.record c.lookup c.machine.main ∨
    ∃ place pieces, c.machine.workers[place]? = some pieces ∧
      Covers uri c.record (c.lookups place) pieces

/-- Some thread beside a worker is about to do so. -/
def IsCoveredBeside (uri : String) (c : Chronicle) (place : Nat) : Prop :=
  Covers uri c.record c.lookup c.machine.main ∨
    ∃ other others, other ≠ place ∧ c.machine.workers[other]? = some others ∧
      Covers uri c.record (c.lookups other) others

/-- What covers the document is a worker, or a thread beside it. -/
theorem IsCovered.cases {place : Nat} {pieces : List Piece} (h : c.IsCovered uri)
    (hplace : c.machine.workers[place]? = some pieces) :
    Covers uri c.record (c.lookups place) pieces ∨ c.IsCoveredBeside uri place := by
  rcases h with hmain | ⟨other, others, hothers, hcovers⟩
  · exact .inr (.inl hmain)
  · by_cases heq : other = place
    · subst heq
      obtain rfl : pieces = others := Option.some.inj (hplace.symm.trans hothers)
      exact .inl hcovers
    · exact .inr (.inr ⟨other, others, heq, hothers, hcovers⟩)

variable [Editor]

/-- **A chronicle is sound:** what the server knows of the document agrees with its past, each
thread has an errand, and the newest version was given a run or is promised one. -/
structure IsSound (uri : String) (c : Chronicle) : Prop where
  machine : c.machine.IsSound
  on : c.machine.session.hasInterpreter = true
  agrees : Agrees uri (c.machine.session.side uri) c.record
  main : Errand uri false (c.machine.session.side uri) c.record c.lookup c.machine.main
  workers : ∀ place pieces, c.machine.workers[place]? = some pieces →
    Errand uri true (c.machine.session.side uri) c.record (c.lookups place) pieces
  promised : c.record.HasNewest ∨ c.machine.session.isPending uri = true ∨ c.IsCovered uri

theorem isSound_fresh {interpreter : Datum} (hon : interpreter.isOn = true) (stage : Datum)
    (uri : String) : (fresh interpreter stage).IsSound uri where
  machine := Machine.isSound_fresh interpreter stage
  on := hon
  agrees :=
    { documents := rfl
      orderly := ⟨by simp [fresh], by simp [fresh], by simp [fresh], by simp [fresh],
        by simp [fresh], by simp [fresh]⟩
      resting := fun _ => ⟨⟨rfl, rfl⟩, by simp [fresh, IsKept]⟩
      queued := by simp [fresh, Machine.fresh, side, queued] }
  main := .calm (by simp [fresh, Machine.fresh])
  workers := by simp [fresh, Machine.fresh]
  promised := .inl (.inl rfl)

/-- The editor asks something. -/
theorem IsSound.request (h : c.IsSound uri) (hplain : IsPlainSource uri) {request : Request}
    (hserves : (Turn.request request).Serves uri c.record.given) :
    (c.turn uri (.request request)).IsSound uri := by
  have hmachine := h.machine.turn (.request request)
  simp only [turn, Machine.turn] at hmachine ⊢
  split at hmachine
  · rename_i hidle
    have hmain : c.machine.main = [] := List.isEmpty_iff.1 hidle
    rw [if_pos hidle]
    refine ⟨hmachine, h.on, h.agrees, Request.errand hplain hserves _ _, h.workers, ?_⟩
    rcases h.promised with hnewest | hpending | hcovers | hworker
    · exact .inl hnewest
    · exact .inr (.inl hpending)
    · rw [hmain] at hcovers
      exact hcovers.elim
    · exact .inr (.inr (.inr hworker))
  · rename_i hbusy
    rw [if_neg hbusy]
    exact h

/-- The main thread does a piece. -/
theorem IsSound.main_turn (h : c.IsSound uri) (hplain : IsPlainSource uri) (answer : Answer) :
    (c.turn uri (.main answer)).IsSound uri := by
  have hthreads : c.machine.threads = [] ++ c.machine.main :: c.machine.workers := rfl
  have hbalanced := h.machine.balanced uri
  rw [Machine.heldBy_eq hthreads] at hbalanced
  have hworker : false = true → IsOrdinaryResult answer.result := fun hfalse => by cases hfalse
  have hproceeds := h.main.proceeds hplain h.agrees h.on hbalanced hworker
  refine ⟨h.machine.turn (.main answer), hproceeds.on, hproceeds.agrees, hproceeds.errand, ?_, ?_⟩
  · intro place pieces hplace
    have hmem : pieces ∈ [] ++ c.machine.workers := List.mem_of_getElem? hplace
    refine (h.workers place pieces hplace).extend h.agrees.orderly hproceeds.past (by simp) ?_
    exact hproceeds.alone.imp_right fun halone => h.machine.held_other hthreads halone hmem
  · refine hproceeds.keeps_promise ?_ h.promised
    rintro hgiven ⟨place, pieces, hplace, hcovers⟩
    exact ⟨place, pieces, hplace, hcovers.of_given hgiven⟩

/-- A worker does a piece. -/
theorem IsSound.work_turn (h : c.IsSound uri) (hplain : IsPlainSource uri) (place : Nat)
    {answer : Answer} (hordinary : IsOrdinaryResult answer.result) :
    (c.turn uri (.work place answer)).IsSound uri := by
  cases hplace : c.machine.workers[place]? with
  | none =>
      simp only [Chronicle.turn, hplace]
      exact h
  | some pieces =>
      obtain ⟨front, back, hworkers, herased, -⟩ := History.exists_append_of_getElem? hplace
      have hthreads : c.machine.threads = (c.machine.main :: front) ++ pieces :: back := by
        rw [Machine.threads, hworkers]
        rfl
      have hbalanced := h.machine.balanced uri
      rw [Machine.heldBy_eq hthreads] at hbalanced
      have hproceeds := (h.workers place pieces hplace).proceeds hplain h.agrees h.on hbalanced
        fun _ => hordinary
      have hgiven := hproceeds.given rfl
      have hlt := (List.getElem?_eq_some_iff.1 hplace).1
      have hmachine := h.machine.turn (.work place answer)
      rw [← machine_turn uri] at hmachine
      rw [turn_work hplace] at hmachine ⊢
      refine ⟨hmachine, hproceeds.on, hproceeds.agrees, ?_, ?_, ?_⟩
      · refine h.main.extend h.agrees.orderly hproceeds.past (fun _ => hgiven) ?_
        exact hproceeds.alone.imp_right fun halone =>
          h.machine.held_other hthreads halone List.mem_cons_self
      · intro other others hothers
        by_cases heq : other = place
        · subst heq
          rw [List.getElem?_set_self hlt] at hothers
          cases hothers
          simpa using hproceeds.errand
        · rw [List.getElem?_set_ne (Ne.symm heq)] at hothers
          have hmem : others ∈ front ++ back := by
            rw [← herased]
            exact List.mem_eraseIdx_iff_getElem?.2 ⟨other, heq, hothers⟩
          have hextended := (h.workers other others hothers).extend h.agrees.orderly
            hproceeds.past (fun _ => hgiven) (hproceeds.alone.imp_right fun halone =>
              h.machine.held_other hthreads halone (List.mem_cons_of_mem _ hmem))
          simpa [heq] using hextended
      · have hbefore := h.promised.imp_right (Or.imp_right fun hcovered => hcovered.cases hplace)
        have hafter := hproceeds.keeps_promise (fun _ => id) hbefore
        refine hafter.imp_right (Or.imp_right ?_)
        rintro (hown | hmain | ⟨other, others, hne, hothers, hcovers⟩)
        · exact .inr ⟨place, _, List.getElem?_set_self hlt, by simpa using hown⟩
        · exact .inl (hmain.of_given hgiven)
        · refine .inr ⟨other, others, (List.getElem?_set_ne (Ne.symm hne)).trans hothers, ?_⟩
          simpa [hne] using hcovers.of_given hgiven

/-- What becomes of a document when the first run is taken from the queue. -/
structure Taken (uri : String) (c : Chronicle) (task : Task) (s : Session) (r : Record) : Prop where
  agrees : Agrees uri (s.side uri) r
  errand : ∀ l, Errand uri true (s.side uri) r l task.pieces
  others : ∀ again l pieces, pieces ∈ c.machine.threads →
    Errand uri again (c.machine.session.side uri) c.record l pieces →
      Errand uri again (s.side uri) r l pieces
  given : r.given = c.record.given
  claims : r.claims = c.record.claims

/-- The run of another document is taken. -/
theorem IsSound.taken_other (h : c.IsSound uri) {task : Task} {queue : List Task}
    (hqueue : c.machine.session.queue = task :: queue) (huri : task.uri ≠ uri) :
    Taken uri c task { c.machine.session with queue } c.record := by
  have hside : ({ c.machine.session with queue } : Session).side uri =
      c.machine.session.side uri := by
    simp [side, queued, hqueue, huri, isRunning, isPending]
  refine ⟨by rw [hside]; exact h.agrees, fun l => .calm ?_, ?_, rfl, rfl⟩
  · intro piece hpiece
    have haside : piece = .log .info ("Starting explorer for " ++ task.uri) ∨
        piece = .explore task ∨ piece = .release task.uri := by
      simpa [Task.pieces] using hpiece
    rcases haside with rfl | rfl | rfl
    · exact .aside rfl
    · exact .aside (by simp [Piece.isAside, huri])
    · exact .aside (by simp [Piece.isAside, huri])
  · intro again l pieces _ herrand
    rwa [hside]

/-- The run of the document is taken: it was the only one in the queue, and no thread held the
document. -/
theorem IsSound.taken_self (h : c.IsSound uri) {task : Task} {queue : List Task}
    (hqueue : c.machine.session.queue = task :: queue) (huri : task.uri = uri) :
    Taken uri c task { c.machine.session with queue }
      { c.record with started := c.record.started ++ [task] } := by
  let s : Session := { c.machine.session with queue }
  let r : Record := { c.record with started := c.record.started ++ [task] }
  have hqueued : c.machine.session.queued uri = task :: queue.filter (fun t => t.uri == uri) := by
    simp [queued, hqueue, huri]
  have hcount := (h.machine.balanced uri).count
  rw [hqueued, List.length_cons] at hcount
  have hbound := Bool.toNat_le (c.machine.session.isRunning uri)
  have hrest : queue.filter (fun t => t.uri == uri) = [] :=
    List.eq_nil_of_length_eq_zero (by omega)
  have hheld : ∀ pieces ∈ c.machine.threads, held uri pieces = 0 := by
    intro pieces hpieces
    have hle := Machine.held_le_sum uri hpieces
    rw [Machine.heldBy] at hcount
    omega
  have hrunning : c.machine.session.isRunning uri = true := by
    cases hrunning : c.machine.session.isRunning uri with
    | true => rfl
    | false =>
        rw [hrunning, Bool.toNat_false] at hcount
        omega
  have hside : s.side uri = { c.machine.session.side uri with queued := [] } := by
    simp [s, side, queued, hrest, isRunning, isPending]
  have hprepared := h.agrees.queued task (by simp [side, hqueued])
  have hpast : c.record.Extends r := ⟨List.prefix_rfl, List.prefix_rfl⟩
  refine ⟨?_, fun l => ?_, fun again l pieces hpieces herrand => ?_, rfl, rfl⟩
  · rw [hside]
    exact ⟨h.agrees.documents, h.agrees.orderly.taken hprepared,
      fun hnone => absurd (hrunning.symm.trans hnone) (by simp), by simp⟩
  · subst huri
    exact .starting rfl rfl hprepared.isGoing
  · exact herrand.extend h.agrees.orderly hpast (fun _ => rfl) (.inr (hheld pieces hpieces))

/-- A worker takes the first run of the queue. -/
theorem IsSound.take_turn (h : c.IsSound uri) : (c.turn uri .take).IsSound uri := by
  have hmachine := h.machine.turn .take
  simp only [Chronicle.turn, Machine.turn, takeTask?] at hmachine ⊢
  cases hqueue : c.machine.session.queue with
  | nil => exact h
  | cons task queue =>
      rw [hqueue] at hmachine
      have htaken : Taken uri c task { c.machine.session with queue }
          (c.record.taken uri (task :: queue)) := by
        by_cases huri : task.uri = uri
        · rw [Record.taken, if_pos huri]
          exact h.taken_self hqueue huri
        · rw [Record.taken, if_neg huri]
          exact h.taken_other hqueue huri
      refine ⟨hmachine, h.on, htaken.agrees, ?_, ?_, ?_⟩
      · exact htaken.others _ _ _ List.mem_cons_self h.main
      · intro place pieces hplace
        rcases getElem?_concat_cases hplace with ⟨-, hold⟩ | ⟨-, rfl⟩
        · exact htaken.others _ _ _ (List.mem_cons_of_mem _ (List.mem_of_getElem? hold))
            (h.workers place pieces hold)
        · exact htaken.errand _
      · rcases h.promised with hnewest | hpending | hmain | ⟨place, pieces, hplace, hcovers⟩
        · left
          unfold Record.HasNewest at hnewest ⊢
          rwa [htaken.given, htaken.claims]
        · exact .inr (.inl hpending)
        · exact .inr (.inr (.inl (hmain.of_given htaken.given)))
        · have hlt := (List.getElem?_eq_some_iff.1 hplace).1
          exact .inr (.inr (.inr ⟨place, pieces, (List.getElem?_append_left hlt).trans hplace,
            hcovers.of_given htaken.given⟩))

/-- **Every turn that serves the document keeps its chronicle sound.** -/
theorem IsSound.turn (h : c.IsSound uri) (hplain : IsPlainSource uri) {t : Turn}
    (hserves : t.Serves uri c.record.given) : (c.turn uri t).IsSound uri := by
  cases t with
  | request request => exact h.request hplain hserves
  | main answer => exact h.main_turn hplain answer
  | take => exact h.take_turn
  | work place answer => exact h.work_turn hplain place hserves

theorem IsSound.run (h : c.IsSound uri) (hplain : IsPlainSource uri) {turns : List Turn}
    (hserves : ∀ front t, front ++ [t] <+: turns → t.Serves uri (c.run uri front).record.given) :
    (c.run uri turns).IsSound uri := by
  induction turns generalizing c with
  | nil => exact h
  | cons t turns ih =>
      have ht : t.Serves uri c.record.given := hserves [] t ⟨turns, rfl⟩
      refine ih (h.turn hplain ht) fun front other hfront => ?_
      exact hserves (t :: front) other ((List.prefix_cons_inj t).2 hfront)

/-- **A chronicle that the server can come to** while it serves the document. -/
def IsReachable (uri : String) (c : Chronicle) : Prop :=
  ∃ interpreter stage turns, interpreter.isOn = true ∧
    (∀ front t, front ++ [t] <+: turns →
      t.Serves uri ((fresh interpreter stage).run uri front).record.given) ∧
    c = (fresh interpreter stage).run uri turns

theorem IsReachable.isSound (h : c.IsReachable uri) (hplain : IsPlainSource uri) :
    c.IsSound uri := by
  obtain ⟨interpreter, stage, turns, hon, hserves, rfl⟩ := h
  exact (isSound_fresh hon stage uri).run hplain hserves

theorem IsReachable.machine (h : c.IsReachable uri) : c.machine.IsReachable := by
  obtain ⟨interpreter, stage, turns, -, -, rfl⟩ := h
  exact ⟨interpreter, stage, turns, machine_run uri _ turns⟩

/-- In the end the newest version of the document was given a run, and what is kept is the result of
the last run. -/
theorem IsSound.settled (h : c.IsSound uri) (hidle : c.machine.IsIdle) :
    c.record.HasNewest ∧ c.record.IsDone ∧ IsKept (c.machine.session.side uri) c.record := by
  have hthreads : ∀ pieces ∈ c.machine.threads, held uri pieces = 0 := by
    intro pieces hpieces
    rcases List.mem_cons.1 hpieces with rfl | hworker
    · rw [hidle.main]
      rfl
    · rw [hidle.workers pieces hworker]
      rfl
  have hheld : c.machine.heldBy uri = 0 :=
    List.sum_eq_zero fun n hn => by
      obtain ⟨pieces, hpieces, rfl⟩ := List.mem_map.1 hn
      exact hthreads pieces hpieces
  have hbalanced := h.machine.balanced uri
  have hrunning : c.machine.session.isRunning uri = false := by
    have hcount := hbalanced.count
    rw [hheld, queued, hidle.queue] at hcount
    cases hrunning : c.machine.session.isRunning uri with
    | false => rfl
    | true => simp [hrunning] at hcount
  refine ⟨?_, h.agrees.resting hrunning⟩
  rcases h.promised with hnewest | hpending | hmain | ⟨place, pieces, hplace, hcovers⟩
  · exact hnewest
  · exact absurd ((hbalanced.pending hpending).symm.trans hrunning) (by simp)
  · rw [hidle.main] at hmain
    exact hmain.elim
  · rw [hidle.workers pieces (List.mem_of_getElem? hplace)] at hcovers
    exact hcovers.elim

end Chronicle

end JitExplorer.Session
