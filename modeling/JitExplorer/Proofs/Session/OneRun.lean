/-
**One run for each document.**

A document is held by what was given its one run and has not released it yet: by the thread that
prepares the run, by the queue, or by the worker that does it.  However the threads take their
turns, a document has at most one holder, the server believes that it has a run under way exactly
if it has a holder, and a worker that holds it releases it after a few turns of its own, whatever
the outcome.

Main definitions:

* `Session.Piece.holds`, `Session.Machine.holders` — the pieces and the runs that hold a document;
* `Session.Machine.calls` — the processes of a document that are going;
* `Session.IsThread` — the three forms that a thread can have;
* `Session.Machine.IsSound` — what holds of all threads and the session they share.

Main results:

* `Session.Piece.act_free` — what a piece can do to the flags of documents;
* `Session.IsThread.keeps` — a thread keeps its form and the balance with every piece that it does;
* `Session.Machine.IsSound.turn` — so do all threads with every turn that one of them takes;
* `Session.Machine.one_holder` — a document has at most one holder, and is released in any case.
-/

import JitExplorer.Proofs.Session.Threads
import JitExplorer.Session.DecodingEditor
import Mathlib.Algebra.Ring.Nat

set_option autoImplicit false

namespace JitExplorer.Session

/-! ### Holders -/

/-- A piece belongs to the run that a document was given. -/
def Piece.holds (uri : String) : Piece → Bool
  | .equip _ _ other => other == uri
  | .aim _ _ other _ => other == uri
  | .put task => task.uri == uri
  | .release other => other == uri
  | _ => false

/-- A piece prepares a run that its document was given. -/
def Piece.isClaimed : Piece → Bool
  | .equip _ _ _ => true
  | .aim _ _ _ _ => true
  | .put _ => true
  | _ => false

/-- A piece is part of what a worker does before it releases a document. -/
def Piece.worksFor (uri : String) : Piece → Bool
  | .log _ _ => true
  | .send _ => true
  | .refresh => true
  | .explore task => task.uri == uri
  | .keep other _ _ => other == uri
  | .collect other => other == uri
  | _ => false

/-- A piece belongs to no run. -/
def Piece.isFree : Piece → Bool
  | .equip _ _ _ => false
  | .aim _ _ _ _ => false
  | .put _ => false
  | .explore _ => false
  | .release _ => false
  | _ => true

/-- All pieces that come next, if some do, belong to no run. -/
def areFree : Except Failure (List Piece) → Bool
  | .ok more => more.all Piece.isFree
  | .error _ => true

/-- The pieces that a piece of a worker can come to, itself included. -/
def Piece.cost : Piece → Nat
  | .explore _ => 6
  | .collect _ => 2
  | _ => 1

/-- The work of some pieces. -/
def workload (pieces : List Piece) : Nat :=
  (pieces.map Piece.cost).sum

/-- The pieces of a thread that hold a document. -/
def held (uri : String) (pieces : List Piece) : Nat :=
  pieces.countP (Piece.holds uri)

/-- The first piece of a thread is the end of a process of a document. -/
def isCalling (uri : String) : List Piece → Bool
  | .explore task :: _ => task.uri == uri
  | _ => false

/-- **The forms of a thread.**  A worker that does a run releases its document last; a thread that
prepares a run does that first; otherwise a thread holds no document. -/
inductive IsThread : List Piece → Prop where
  | working {uri : String} {pieces : List Piece} :
      (∀ piece ∈ pieces, piece.worksFor uri = true) → workload pieces ≤ 7 →
        IsThread (pieces ++ [.release uri])
  | claiming {piece : Piece} {pieces : List Piece} :
      piece.isClaimed = true → (∀ other ∈ pieces, other.isFree = true) → IsThread (piece :: pieces)
  | free {pieces : List Piece} : (∀ piece ∈ pieces, piece.isFree = true) → IsThread pieces

theorem Piece.holds_of_worksFor {uri other : String} {piece : Piece}
    (h : piece.worksFor other = true) : piece.holds uri = false := by
  cases piece <;> first | rfl | exact absurd h Bool.false_ne_true

theorem Piece.holds_of_isFree {uri : String} {piece : Piece} (h : piece.isFree = true) :
    piece.holds uri = false := by
  cases piece <;> first | rfl | exact absurd h Bool.false_ne_true

theorem held_of_worksFor {uri other : String} {pieces : List Piece}
    (h : ∀ piece ∈ pieces, piece.worksFor other = true) : held uri pieces = 0 := by
  refine List.countP_eq_zero.2 fun piece hpiece => ?_
  rw [Piece.holds_of_worksFor (h piece hpiece)]
  exact Bool.false_ne_true

theorem held_of_isFree {uri : String} {pieces : List Piece}
    (h : ∀ piece ∈ pieces, piece.isFree = true) : held uri pieces = 0 := by
  refine List.countP_eq_zero.2 fun piece hpiece => ?_
  rw [Piece.holds_of_isFree (h piece hpiece)]
  exact Bool.false_ne_true

/-! ### What a piece does to the flags -/

/-- Two sessions agree on the runs of all documents. -/
structure SameRuns (s t : Session) : Prop where
  running : t.running = s.running
  pending : t.pending = s.pending
  queue : t.queue = s.queue

theorem Balanced.of_sameRuns {uri : String} {going : Nat} {s t : Session} (h : SameRuns s t)
    (hs : Balanced uri going s) : Balanced uri going t := by
  refine ⟨?_, ?_⟩
  · rw [queued, h.queue, isRunning, h.running]
    exact hs.count
  · rw [isPending, h.pending, isRunning, h.running]
    exact hs.pending

/-- **What a piece that belongs to no run can do.** -/
inductive FreeAct (s : Session) : Except Failure (List Piece) → Session → Prop where
  /-- It leaves the runs of all documents alone. -/
  | same {result : Except Failure (List Piece)} {t : Session} :
      SameRuns s t → areFree result = true → FreeAct s result t
  /-- It marks a document that has a run. -/
  | mark {uri : String} {t : Session} :
      s.isRunning uri = true → SameRuns (s.marked uri) t → FreeAct s (.ok []) t
  /-- It gives a run to a document that has none. -/
  | claim {text path uri : String} :
      s.isRunning uri = false →
      FreeAct s (.ok [.equip text path uri]) { s with running := s.running.set uri true }
  /-- It takes the mark of a document away. -/
  | drop {uri : String} {notice : Notice} {t : Session} :
      SameRuns { s with pending := s.pending.erase uri } t → FreeAct s (.ok [.send notice]) t

theorem SameRuns.of_core {s t : Session} (h : t.core = s.core) : SameRuns s t := by
  have hsame : SameRuns s.core t.core := by
    rw [h]
    exact ⟨rfl, rfl, rfl⟩
  exact ⟨hsame.running, hsame.pending, hsame.queue⟩

theorem Piece.act_free [Editor] {piece : Piece} (h : piece.isFree = true) (answer : Answer)
    (s : Session) :
    FreeAct s (piece.act answer s).1 (piece.act answer s).2 := by
  cases piece
  case claim text path uri =>
    simp only [act]
    split
    · rename_i hrunning
      exact .mark hrunning ⟨rfl, rfl, rfl⟩
    · rename_i hrunning
      exact .claim (by simpa using hrunning)
  case drop uri => exact .drop ⟨rfl, rfl, rfl⟩
  case equip | aim | put | explore | release => exact absurd h Bool.false_ne_true
  case refresh =>
    refine .same (.of_core (refresh_core answer.refusal s)) ?_
    cases hresult : (Session.refresh answer.refusal s).1 <;> simp only [act, hresult] <;> rfl
  case fetch path uri reading =>
    refine .same ?_ ?_
    · simp only [act, documentText_snd]
      exact ⟨rfl, rfl, rfl⟩
    · cases hresult : (documentText reading uri s).1 <;> simp only [act, hresult] <;> rfl
  case wipe =>
    refine .same ⟨rfl, rfl, rfl⟩ ?_
    simp [act, areFree, isFree]
  -- The other pieces look at the session and change nothing that runs depend on.
  all_goals
    refine .same ?_ ?_
    · simp only [act]
      repeat' split
      all_goals exact ⟨rfl, rfl, rfl⟩
    · simp only [act]
      repeat' split
      all_goals rfl

/-- All pieces that come next, if some do, are part of what a worker does for a document. -/
def areWorkFor (uri : String) : Except Failure (List Piece) → Bool
  | .ok more => more.all (Piece.worksFor uri)
  | .error _ => true

/-- What a worker does before the release goes on with more of it, and changes no flag. -/
theorem Piece.act_worksFor [Editor] {uri : String} {piece : Piece} (h : piece.worksFor uri = true)
    (answer : Answer) (s : Session) :
    SameRuns s (piece.act answer s).2 ∧ areWorkFor uri (piece.act answer s).1 = true := by
  cases piece
  case log | send | keep => exact ⟨⟨rfl, rfl, rfl⟩, rfl⟩
  case refresh =>
    refine ⟨.of_core (refresh_core answer.refusal s), ?_⟩
    cases hresult : (Session.refresh answer.refusal s).1 <;> simp only [act, hresult] <;> rfl
  case collect other => exact ⟨⟨rfl, rfl, rfl⟩, rfl⟩
  case explore task =>
    have huri : (task.uri == uri) = true := h
    simp only [act, outcome]
    split
    · refine ⟨⟨rfl, rfl, rfl⟩, ?_⟩
      simp [areWorkFor, worksFor, huri]
    · split
      · split
        · refine ⟨⟨rfl, rfl, rfl⟩, ?_⟩
          simp [areWorkFor, worksFor, huri]
        · exact ⟨⟨rfl, rfl, rfl⟩, rfl⟩
      · refine ⟨⟨rfl, rfl, rfl⟩, ?_⟩
        simp [areWorkFor, worksFor, huri]
  all_goals exact absurd h Bool.false_ne_true

/-- A piece of a worker costs more than the pieces that it puts in front. -/
theorem Piece.workload_lt [Editor] {uri : String} {piece : Piece} (h : piece.worksFor uri = true)
    {answer : Answer} {s : Session} {more : List Piece}
    (hmore : (piece.act answer s).1 = .ok more) : workload more < piece.cost := by
  cases piece
  case log | send | keep | collect =>
    obtain rfl := Except.ok.inj hmore
    simp [workload, cost]
  case refresh =>
    simp only [act] at hmore
    cases hresult : (Session.refresh answer.refusal s).1 with
    | ok _ =>
        rw [hresult] at hmore
        obtain rfl : [] = more := Except.ok.inj hmore
        simp [workload, cost]
    | error failure =>
        rw [hresult] at hmore
        exact absurd hmore (by simp [Except.map])
  case explore task =>
    simp only [act, outcome] at hmore
    repeat' split at hmore
    all_goals
      cases hmore <;> simp [workload, cost]
  all_goals exact absurd h Bool.false_ne_true

/-! ### What a thread does to the balance -/

/-- A thread keeps its form, and the balance of every document, when it does a piece. -/
structure Keeps (pieces : List Piece) (s : Session) (after : List Piece × Session) : Prop where
  thread : IsThread after.1
  balanced : ∀ uri going, Balanced uri (going + held uri pieces) s →
    Balanced uri (going + held uri after.1) after.2

theorem held_append (uri : String) (pieces others : List Piece) :
    held uri (pieces ++ others) = held uri pieces + held uri others :=
  List.countP_append

theorem held_cons (uri : String) (piece : Piece) (pieces : List Piece) :
    held uri (piece :: pieces) = held uri pieces + (piece.holds uri).toNat := by
  rw [held, List.countP_cons]
  cases piece.holds uri <;> rfl

/-- A worker that fails goes on with the release. -/
theorem dropWhile_of_worksFor {uri : String} {pieces : List Piece}
    (h : ∀ piece ∈ pieces, piece.worksFor uri = true) :
    (pieces ++ [Piece.release uri]).dropWhile (fun piece => !piece.isRelease) =
      [Piece.release uri] := by
  refine (List.dropWhile_append_of_pos fun piece hpiece => ?_).trans rfl
  have hworks := h piece hpiece
  cases piece <;> first | rfl | exact absurd hworks Bool.false_ne_true

/-- A thread that holds nothing and fails has come to its end. -/
theorem dropWhile_of_isFree {pieces : List Piece} (h : ∀ piece ∈ pieces, piece.isFree = true) :
    pieces.dropWhile (fun piece => !piece.isRelease) = [] := by
  rw [← List.append_nil pieces]
  refine (List.dropWhile_append_of_pos fun piece hpiece => ?_).trans rfl
  have hfree := h piece hpiece
  cases piece <;> first | rfl | exact absurd hfree Bool.false_ne_true

/-- A worker that releases its document holds nothing afterwards. -/
theorem keeps_release [Editor] (uri : String) (answer : Answer) (s : Session) :
    Keeps [.release uri] s (advance answer ([.release uri], s)) := by
  have hafter : IsThread (advance answer ([.release uri], s)).1 ∧
      ∀ other, held other (advance answer ([.release uri], s)).1 = 0 := by
    simp only [advance, Piece.act, follow, List.append_nil]
    split
    · exact ⟨.free (by simp [Piece.isFree]), fun _ => rfl⟩
    · exact ⟨.free (by simp), fun _ => rfl⟩
  refine ⟨hafter.1, ?_⟩
  intro other going hbalanced
  rw [hafter.2 other, Nat.add_zero]
  by_cases heq : uri = other
  · subst heq
    have hheld : held uri [.release uri] = 1 := by simp [held, Piece.holds]
    rw [hheld] at hbalanced
    exact hbalanced.released
  · have hheld : held other [.release uri] = 0 := by simp [held, Piece.holds, heq]
    rw [hheld] at hbalanced
    exact hbalanced.released_other heq

/-- A worker goes on with its run, or releases its document. -/
theorem keeps_working [Editor] {uri : String} {pieces : List Piece}
    (h : ∀ piece ∈ pieces, piece.worksFor uri = true) (hload : workload pieces ≤ 7)
    (answer : Answer) (s : Session) :
    Keeps (pieces ++ [.release uri]) s (advance answer (pieces ++ [.release uri], s)) := by
  cases pieces with
  | nil => exact keeps_release uri answer s
  | cons piece pieces =>
      -- Whether the piece fails or not, the release stays last, and nothing else holds the document.
      obtain ⟨hpiece, hpieces⟩ := List.forall_mem_cons.1 h
      obtain ⟨hsame, hmore⟩ := Piece.act_worksFor hpiece answer s
      have hheld : ∀ other, held other (piece :: pieces ++ [.release uri]) =
          held other [.release uri] := by
        intro other
        rw [held_append, held_of_worksFor h, Nat.zero_add]
      have hafter : IsThread (follow (pieces ++ [.release uri]) (piece.act answer s).1) ∧
          ∀ other, held other (follow (pieces ++ [.release uri]) (piece.act answer s).1) =
            held other [.release uri] := by
        cases hresult : (piece.act answer s).1 with
        | ok more =>
            rw [hresult] at hmore
            have hwork : ∀ piece ∈ more ++ pieces, piece.worksFor uri = true := by
              intro other hother
              rcases List.mem_append.1 hother with hother | hother
              · exact List.all_eq_true.1 hmore other hother
              · exact hpieces other hother
            have hless := Piece.workload_lt hpiece hresult
            have hrest : workload (more ++ pieces) ≤ 7 := by
              simp only [workload, List.map_append, List.sum_append, List.map_cons,
                List.sum_cons] at hless hload ⊢
              omega
            rw [follow, ← List.append_assoc]
            refine ⟨.working hwork hrest, fun other => ?_⟩
            rw [held_append, held_of_worksFor hwork, Nat.zero_add]
        | error failure =>
            rw [follow, dropWhile_of_worksFor hpieces]
            have hlast : IsThread ([] ++ [Piece.release uri]) :=
              .working (by simp) (by simp [workload])
            exact ⟨hlast, fun _ => rfl⟩
      refine ⟨hafter.1, ?_⟩
      intro other going hbalanced
      have hlater : held other (advance answer (piece :: pieces ++ [.release uri], s)).1 =
          held other [.release uri] := hafter.2 other
      rw [hlater]
      rw [hheld] at hbalanced
      exact hbalanced.of_sameRuns hsame

/-- A thread that prepares a run goes on with it, or has put it into the queue. -/
theorem keeps_claiming [Editor] {piece : Piece} {pieces : List Piece}
    (hpiece : piece.isClaimed = true)
    (h : ∀ other ∈ pieces, other.isFree = true) (answer : Answer) (s : Session) :
    Keeps (piece :: pieces) s (advance answer (piece :: pieces, s)) := by
  cases piece
  case equip text path uri =>
    refine ⟨.claiming rfl h, ?_⟩
    intro other going hbalanced
    exact hbalanced
  case aim text path uri interpreter =>
    refine ⟨.claiming rfl h, ?_⟩
    intro other going hbalanced
    exact hbalanced
  case put task =>
    refine ⟨.free h, ?_⟩
    intro other going hbalanced
    have hrest : held other pieces = 0 := held_of_isFree h
    rw [held_cons, hrest, Nat.zero_add] at hbalanced
    change Balanced other (going + held other pieces) { s with queue := s.queue ++ [task] }
    rw [hrest]
    exact hbalanced.put
  all_goals exact absurd hpiece Bool.false_ne_true

/-- A thread that holds nothing goes on like this, or begins to prepare a run. -/
theorem keeps_free [Editor] {pieces : List Piece} (h : ∀ piece ∈ pieces, piece.isFree = true)
    (answer : Answer) (s : Session) : Keeps pieces s (advance answer (pieces, s)) := by
  cases pieces with
  | nil => exact ⟨.free h, fun _ _ hbalanced => hbalanced⟩
  | cons piece pieces =>
      obtain ⟨hpiece, hpieces⟩ := List.forall_mem_cons.1 h
      have hfree := Piece.act_free hpiece answer s
      have hnone : ∀ other, held other (piece :: pieces) = 0 := fun _ => held_of_isFree h
      have hafter : ∀ {others t}, (∀ other ∈ others, other.isFree = true) →
          (∀ uri going, Balanced uri going s → Balanced uri going t) →
            Keeps (piece :: pieces) s (others, t) := by
        intro others t hothers hbalance
        refine ⟨.free hothers, ?_⟩
        intro uri going hbalanced
        rw [hnone] at hbalanced
        rw [held_of_isFree hothers]
        exact hbalance uri going hbalanced
      -- Only a claim changes what the thread holds: it begins to prepare the run it was given.
      simp only [advance]
      generalize (piece.act answer s).1 = result at hfree
      generalize (piece.act answer s).2 = t at hfree
      cases hfree with
      | same hsame hmore =>
          refine hafter ?_ fun uri going hbalanced => hbalanced.of_sameRuns hsame
          cases result with
          | ok more =>
              intro other hother
              rcases List.mem_append.1 hother with hother | hother
              · exact List.all_eq_true.1 hmore other hother
              · exact hpieces other hother
          | error failure =>
              rw [follow, dropWhile_of_isFree hpieces]
              simp
      | mark hrunning hsame =>
          exact hafter hpieces fun uri going hbalanced =>
            (hbalanced.marked hrunning).of_sameRuns hsame
      | claim hrunning =>
          rename_i text path uri
          refine ⟨.claiming rfl hpieces, ?_⟩
          intro other going hbalanced
          have hheld : held other (follow pieces (.ok [.equip text path uri])) =
              (uri == other).toNat := by
            rw [follow, held_append, held_of_isFree hpieces, Nat.add_zero, held_cons]
            exact Nat.zero_add _
          rw [hnone, Nat.add_zero] at hbalanced
          rw [hheld]
          exact hbalanced.claimed hrunning
      | drop hsame =>
          refine hafter ?_ fun uri going hbalanced => (hbalanced.unmarked _).of_sameRuns hsame
          exact List.forall_mem_cons.2 ⟨rfl, hpieces⟩

/-- **A thread keeps its form and the balance with every piece that it does.** -/
theorem IsThread.keeps [Editor] {pieces : List Piece} (h : IsThread pieces) (answer : Answer)
    (s : Session) : Keeps pieces s (advance answer (pieces, s)) := by
  cases h with
  | working h hload => exact keeps_working h hload answer s
  | claiming hpiece h => exact keeps_claiming hpiece h answer s
  | free h => exact keeps_free h answer s

/-- A request begins without holding a document. -/
theorem Request.isFree_of_mem_pieces (request : Request) :
    ∀ piece ∈ request.pieces, piece.isFree = true := by
  cases request with
  | event e => cases e <;> simp [Request.pieces, Event.pieces, Piece.isFree]
  | hints uri first last reading => simp [Request.pieces, Piece.isFree]

/-- It is the turn of a worker. -/
def Turn.isWork (place : Nat) : Turn → Bool
  | .work other _ => other == place
  | _ => false

namespace Machine

/-! ### All threads -/

/-- All threads. -/
def threads (m : Machine) : List (List Piece) :=
  m.main :: m.workers

/-- The pieces of all threads that hold a document. -/
def heldBy (uri : String) (m : Machine) : Nat :=
  (m.threads.map (held uri)).sum

/-- **The holders of a document:** its runs in the queue, and the pieces of threads that belong to
its run. -/
def holders (uri : String) (m : Machine) : Nat :=
  (m.session.queued uri).length + m.heldBy uri

/-- The processes of a document that are going. -/
def calls (uri : String) (m : Machine) : Nat :=
  m.threads.countP (isCalling uri)

/-- All threads have one of the forms, and every document is balanced. -/
structure IsSound (m : Machine) : Prop where
  forms : ∀ pieces ∈ m.threads, IsThread pieces
  balanced : ∀ uri, Balanced uri (m.heldBy uri) m.session

variable {m : Machine} {uri : String}

theorem isSound_fresh (interpreter stage : Datum) : (fresh interpreter stage).IsSound := by
  refine ⟨?_, ?_⟩
  · intro pieces hpieces
    obtain rfl : pieces = [] := List.mem_singleton.1 hpieces
    exact .free (by simp)
  · exact fun uri => ⟨rfl, fun hpending => absurd hpending Bool.false_ne_true⟩

/-- What one thread keeps, all of them keep. -/
theorem IsSound.of_keeps [Editor] (h : m.IsSound) (front back : List (List Piece))
    {pieces : List Piece}
    {after : List Piece × Session} (hbefore : m.threads = front ++ pieces :: back)
    (hkeeps : Keeps pieces m.session after) {k : Machine}
    (hafter : k.threads = front ++ after.1 :: back) (hsession : k.session = after.2) :
    k.IsSound := by
  refine ⟨?_, ?_⟩
  · intro others hothers
    rw [hafter] at hothers
    rcases List.mem_append.1 hothers with hfront | hrest
    · refine h.forms others ?_
      rw [hbefore]
      exact List.mem_append_left _ hfront
    · rcases List.mem_cons.1 hrest with rfl | hback
      · exact hkeeps.thread
      · refine h.forms others ?_
        rw [hbefore]
        exact List.mem_append_right _ (List.mem_cons_of_mem _ hback)
  · intro uri
    have hsum : ∀ thread, ((front ++ thread :: back).map (held uri)).sum =
        (front.map (held uri)).sum + (back.map (held uri)).sum + held uri thread := by
      intro thread
      simp only [List.map_append, List.map_cons, List.sum_append, List.sum_cons]
      omega
    have hbalanced := h.balanced uri
    rw [heldBy, hbefore, hsum] at hbalanced
    rw [heldBy, hafter, hsum, hsession]
    exact hkeeps.balanced uri _ hbalanced

/-- A worker that takes a run from the queue holds its document. -/
theorem IsSound.take (h : m.IsSound) {task : Task} {queue : List Task}
    (hqueue : m.session.queue = task :: queue) :
    IsSound { m with
      session := { m.session with queue }, workers := m.workers ++ [task.pieces] } := by
  have hthreads : threads { m with
      session := { m.session with queue }, workers := m.workers ++ [task.pieces] } =
        m.threads ++ [task.pieces] := rfl
  have htask : ∀ uri, held uri task.pieces = (task.uri == uri).toNat := by
    intro uri
    rw [Task.pieces, held_cons, held_cons, held_cons]
    simp [held, Piece.holds]
  refine ⟨?_, ?_⟩
  · intro pieces hpieces
    rw [hthreads] at hpieces
    rcases List.mem_append.1 hpieces with hpieces | hnew
    · exact h.forms pieces hpieces
    · obtain rfl := List.mem_singleton.1 hnew
      have hworking : IsThread ([.log .info ("Starting explorer for " ++ task.uri),
          .explore task] ++ [Piece.release task.uri]) :=
        .working (by simp [Piece.worksFor]) (by simp [workload, Piece.cost])
      exact hworking
  · intro uri
    have hbalanced := h.balanced uri
    rw [heldBy, hthreads, List.map_append, List.sum_append, List.map_singleton,
      List.sum_singleton, htask]
    exact hbalanced.taken hqueue

/-- **Every turn keeps all threads sound.** -/
theorem IsSound.turn [Editor] (h : m.IsSound) (t : Turn) : (m.turn t).IsSound := by
  cases t with
  | request request =>
      simp only [Machine.turn]
      split
      · rename_i hidle
        have hmain : m.main = [] := List.isEmpty_iff.1 hidle
        have hfree := request.isFree_of_mem_pieces
        have hkeeps : Keeps [] m.session (request.pieces, m.session) := by
          refine ⟨.free hfree, ?_⟩
          intro uri going hbalanced
          rw [held_of_isFree hfree]
          exact hbalanced
        refine h.of_keeps [] m.workers ?_ hkeeps rfl rfl
        rw [threads, hmain]
        rfl
      · exact h
  | main answer =>
      have hkeeps := (h.forms m.main List.mem_cons_self).keeps answer m.session
      exact h.of_keeps [] m.workers rfl hkeeps rfl rfl
  | take =>
      simp only [Machine.turn, takeTask?]
      cases hqueue : m.session.queue with
      | nil => exact h
      | cons task queue => exact h.take hqueue
  | work place answer =>
      simp only [Machine.turn]
      cases hplace : m.workers[place]? with
      | none => exact h
      | some pieces =>
          have hmem : pieces ∈ m.threads := List.mem_cons_of_mem _ (List.mem_of_getElem? hplace)
          have hkeeps := (h.forms pieces hmem).keeps answer m.session
          obtain ⟨front, back, hworkers, -, hset⟩ := History.exists_append_of_getElem? hplace
          refine h.of_keeps (m.main :: front) back ?_ hkeeps ?_ rfl
          · rw [threads, hworkers]
            rfl
          · exact congrArg (m.main :: ·) (hset _)

/-- **Every reachable state is sound.** -/
theorem IsReachable.isSound [Editor] (h : m.IsReachable) : m.IsSound := by
  obtain ⟨interpreter, stage, turns, rfl⟩ := h
  -- The induction is on the turns, from any sound state, since each turn leads to another one.
  have hall : ∀ k : Machine, k.IsSound → (k.run turns).IsSound := by
    induction turns with
    | nil => exact fun k hk => hk
    | cons t turns ih => exact fun k hk => ih _ (hk.turn t)
  exact hall _ (isSound_fresh interpreter stage)

/-! ### Processes -/

/-- A thread that does a run of a document holds it. -/
theorem isCalling_le_held {pieces : List Piece} (h : IsThread pieces) (uri : String) :
    (isCalling uri pieces).toNat ≤ held uri pieces := by
  cases h with
  | working hwork hload =>
      rename_i other pieces
      cases pieces with
      | nil => exact Nat.zero_le _
      | cons piece pieces =>
          have hpiece := hwork piece List.mem_cons_self
          cases hcalling : isCalling uri (piece :: pieces ++ [.release other]) with
          | false => exact Nat.zero_le _
          | true =>
              cases piece
              case explore task =>
                obtain rfl : task.uri = uri := by simpa [isCalling] using hcalling
                obtain rfl : task.uri = other := by simpa [Piece.worksFor] using hpiece
                rw [held_append, held_of_worksFor hwork]
                simp [held, Piece.holds]
              all_goals exact absurd hcalling Bool.false_ne_true
  | claiming hpiece hrest =>
      rename_i piece pieces
      cases piece
      case explore task => exact absurd hpiece Bool.false_ne_true
      all_goals exact Nat.zero_le _
  | free hfree =>
      cases pieces with
      | nil => exact Nat.zero_le _
      | cons piece pieces =>
          have hpiece := hfree piece List.mem_cons_self
          cases piece
          case explore task => exact absurd hpiece Bool.false_ne_true
          all_goals exact Nat.zero_le _

/-- A document has no more processes than holders. -/
theorem IsSound.calls_le_heldBy (h : m.IsSound) (uri : String) : m.calls uri ≤ m.heldBy uri := by
  have hforms := h.forms
  rw [calls, heldBy]
  -- Thread by thread: each of them has one process at most, and holds the document if it has one.
  generalize m.threads = threads at hforms ⊢
  induction threads with
  | nil => exact Nat.zero_le _
  | cons pieces threads ih =>
      obtain ⟨hpieces, hthreads⟩ := List.forall_mem_cons.1 hforms
      have hfirst := isCalling_le_held hpieces uri
      have hothers := ih hthreads
      rw [List.countP_cons, List.map_cons, List.sum_cons]
      cases hcalling : isCalling uri pieces with
      | false =>
          simp only [Bool.false_eq_true, if_false]
          omega
      | true =>
          rw [hcalling, Bool.toNat_true] at hfirst
          simp only [if_true]
          omega

/-! ### Releases -/

/-- A worker does a run of a document, with at most so much work in front of the release. -/
def Works (place : Nat) (uri : String) (load : Nat) (m : Machine) : Prop :=
  ∃ pieces, m.workers[place]? = some (pieces ++ [.release uri]) ∧
    (∀ piece ∈ pieces, piece.worksFor uri = true) ∧ workload pieces ≤ load

section Works

variable {place load : Nat}

/-- A worker goes on from where it was, whatever the other threads do meanwhile. -/
theorem Works.other [Editor] (h : m.Works place uri load) {t : Turn} (ht : t.isWork place = false) :
    (m.turn t).Works place uri load := by
  obtain ⟨pieces, hplace, hwork, hload⟩ := h
  refine ⟨pieces, ?_, hwork, hload⟩
  cases t with
  | request request =>
      simp only [Machine.turn]
      split <;> exact hplace
  | main answer => exact hplace
  | take =>
      simp only [Machine.turn]
      cases takeTask? m.session with
      | none => exact hplace
      | some taken =>
          have hlt := (List.getElem?_eq_some_iff.1 hplace).1
          exact (List.getElem?_append_left hlt).trans hplace
  | work other answer =>
      have hne : other ≠ place := by simpa [Turn.isWork] using ht
      simp only [Machine.turn]
      cases m.workers[other]? with
      | none => exact hplace
      | some others => exact (List.getElem?_set_ne hne).trans hplace

/-- A worker releases its document with a turn of its own, or has less work left. -/
theorem Works.own [Editor] (h : m.Works place uri load) (answer : Answer) :
    (m.turn (.work place answer)).session.isRunning uri = false ∨
      ∃ less, less < load ∧ (m.turn (.work place answer)).Works place uri less := by
  obtain ⟨pieces, hplace, hwork, hload⟩ := h
  have hlt := (List.getElem?_eq_some_iff.1 hplace).1
  have hturn : m.turn (.work place answer) =
      { m with
        session := (advance answer (pieces ++ [.release uri], m.session)).2
        workers := m.workers.set place
          (advance answer (pieces ++ [.release uri], m.session)).1 } := by
    rw [Machine.turn, hplace]
  cases pieces with
  | nil =>
      left
      rw [hturn]
      exact release_running uri m.session
  | cons piece pieces =>
      right
      obtain ⟨hpiece, hpieces⟩ := List.forall_mem_cons.1 hwork
      obtain ⟨-, hmore⟩ := Piece.act_worksFor hpiece answer m.session
      have hnow : ∀ next, (m.workers.set place next)[place]? = some next :=
        fun next => List.getElem?_set_self hlt
      simp only [workload, List.map_cons, List.sum_cons] at hload
      cases hresult : (piece.act answer m.session).1 with
      | ok more =>
          have hless := Piece.workload_lt hpiece hresult
          rw [hresult] at hmore
          refine ⟨workload (more ++ pieces), ?_, more ++ pieces, ?_, ?_, Nat.le_refl _⟩
          · simp only [workload, List.map_append, List.sum_append] at hless ⊢
            omega
          · rw [hturn]
            refine (hnow _).trans ?_
            simp only [List.cons_append, advance, hresult, follow, List.append_assoc]
          · intro other hother
            rcases List.mem_append.1 hother with hother | hother
            · exact List.all_eq_true.1 hmore other hother
            · exact hpieces other hother
      | error failure =>
          refine ⟨0, ?_, [], ?_, by simp, by simp [workload]⟩
          · have hcost : 0 < piece.cost := by
              cases piece <;> exact Nat.succ_pos _
            omega
          · rw [hturn]
            refine (hnow _).trans ?_
            simp only [List.cons_append, advance, hresult, follow, dropWhile_of_worksFor hpieces,
              List.nil_append]

/-- **A worker releases its document** after at most as many turns of its own as it has work, and
one more. -/
theorem Works.released [Editor] (h : m.Works place uri load) {turns : List Turn}
    (hturns : load < turns.countP (Turn.isWork place)) :
    ∃ k, (m.run (turns.take k)).session.isRunning uri = false := by
  -- By induction on the turns: those of others leave the work alone, those of its own make it less.
  induction turns generalizing m load with
  | nil => exact absurd hturns (Nat.not_lt_zero _)
  | cons t turns ih =>
      -- One turn and then some of the others are some of all turns.
      have hlater : (∃ k, ((m.turn t).run (turns.take k)).session.isRunning uri = false) →
          ∃ k, (m.run ((t :: turns).take k)).session.isRunning uri = false := by
        rintro ⟨k, hk⟩
        exact ⟨k + 1, hk⟩
      rw [List.countP_cons] at hturns
      cases hwork : t.isWork place with
      | false =>
          rw [hwork] at hturns
          exact hlater (ih (h.other hwork) (by simpa using hturns))
      | true =>
          rw [hwork, if_pos rfl] at hturns
          cases t with
          | work other answer =>
              obtain rfl : other = place := by simpa [Turn.isWork] using hwork
              rcases h.own answer with hreleased | ⟨less, hless, hworks⟩
              · exact hlater ⟨0, hreleased⟩
              · exact hlater (ih hworks (by omega))
          | request request => exact absurd hwork Bool.false_ne_true
          | main answer => exact absurd hwork Bool.false_ne_true
          | take => exact absurd hwork Bool.false_ne_true

end Works

/-- A worker that has a release to do works for its document. -/
theorem IsSound.works (h : m.IsSound) {place : Nat} {pieces : List Piece}
    (hplace : m.workers[place]? = some pieces) (hrelease : .release uri ∈ pieces) :
    m.Works place uri 7 := by
  have hform := h.forms pieces (List.mem_cons_of_mem _ (List.mem_of_getElem? hplace))
  cases hform with
  | working hwork hload =>
      rename_i other pieces
      have hother : other = uri := by
        rcases List.mem_append.1 hrelease with hmem | hmem
        · exact absurd (hwork _ hmem) Bool.false_ne_true
        · simpa using (List.mem_singleton.1 hmem).symm
      subst hother
      exact ⟨pieces, hplace, hwork, hload⟩
  | claiming hpiece hrest =>
      rcases List.mem_cons.1 hrelease with rfl | hmem
      · exact absurd hpiece Bool.false_ne_true
      · exact absurd (hrest _ hmem) Bool.false_ne_true
  | free hfree => exact absurd (hfree _ hrelease) Bool.false_ne_true

/-- **A document has one run at most, and is not stuck with it.**  In every state that the server
can come to, a document has at most one holder, and the server believes that it has a run under way
exactly if it has one; at most one process of it is going; it is marked only while it has a run; and
a worker that is to release it has done so after eight turns of its own, whatever happens. -/
theorem one_holder [Editor] {m : Machine} (h : m.IsReachable) (uri : String) :
    m.holders uri ≤ 1 ∧
      (m.session.isRunning uri = true ↔ m.holders uri = 1) ∧
      m.calls uri ≤ 1 ∧
      (m.session.isPending uri = true → m.session.isRunning uri = true) ∧
      ∀ (place : Nat) (pieces : List Piece) (turns : List Turn),
        m.workers[place]? = some pieces → .release uri ∈ pieces →
          8 ≤ turns.countP (Turn.isWork place) →
            ∃ k, (m.run (turns.take k)).session.isRunning uri = false := by
  have hsound := h.isSound
  have hbalanced := hsound.balanced uri
  have hcalls := hsound.calls_le_heldBy uri
  have hcount : m.holders uri = (m.session.isRunning uri).toNat := hbalanced.count
  have hbound := Bool.toNat_le (m.session.isRunning uri)
  refine ⟨by omega, ?_, ?_, hbalanced.pending, ?_⟩
  · rw [hcount]
    cases m.session.isRunning uri <;> simp
  · rw [holders] at hcount
    omega
  · intro place pieces turns hplace hrelease hturns
    exact (hsound.works hplace hrelease).released hturns

section Decoding

attribute [local instance] Editor.decoding

/-- A source that is changed while the process of its first run is going. -/
def changedMeanwhile : Machine :=
  (fresh (.text "python") (.text "native")).run
    (.request (.event (.opened "file:///work/kernels.py" "")) :: List.replicate 8 (.main {}) ++
      [.take, .work 0 {}, .request (.event (.changed "file:///work/kernels.py" "pass"))] ++
        List.replicate 5 (.main {}))

/-- The source that is changed during its run is marked, has one process and one holder, and is
released. -/
theorem one_holder_changedMeanwhile :
    changedMeanwhile.IsReachable ∧
      changedMeanwhile.session.isPending "file:///work/kernels.py" = true ∧
      changedMeanwhile.calls "file:///work/kernels.py" = 1 ∧
      changedMeanwhile.holders "file:///work/kernels.py" = 1 ∧
      ∃ k, (changedMeanwhile.run ((List.replicate 8 (.work 0 {})).take k)).session.isRunning
        "file:///work/kernels.py" = false := by
  have hreach : changedMeanwhile.IsReachable := ⟨_, _, _, rfl⟩
  have hmarked : changedMeanwhile.session.isPending "file:///work/kernels.py" = true := by
    decide +kernel
  obtain ⟨-, hiff, -, hpending, hreleased⟩ := one_holder hreach "file:///work/kernels.py"
  refine ⟨hreach, hmarked, by decide +kernel, hiff.1 (hpending hmarked), ?_⟩
  exact hreleased 0 [.explore _, .release "file:///work/kernels.py"] _ rfl (by simp) (by decide)

end Decoding

end Machine

end JitExplorer.Session
