/-
**What is kept for a document comes in pairs.**

Blocks and diagnostics of a document are kept together, dropped together and wiped out together.  So
every document has both or neither; one with a diagnostic has no blocks; and blocks are always those
that the last run of the document stored, if it stored any.

A ledger is the server with its threads, and beside it what is to be known about the past: how the
process of each worker's run came to its end, and which of these ends were stored.

Main definitions:

* `Session.IsPaired` — how blocks, diagnostics and the ends that were stored belong together;
* `Session.HasForm` — the forms of a thread, as far as they matter for what is kept;
* `Session.Ledger`, `Session.Ledger.turn` — ledgers and their turns.

Main results:

* `Session.Piece.act_sameCaches` — which pieces leave alone what is kept;
* `Session.HasForm.advance` — a piece of a thread keeps the form of the thread and the pairs;
* `Session.Ledger.IsSound.turn` — so does every turn of the server;
* `Session.Ledger.caches_paired` — **what is kept comes in pairs,** however the threads take turns.
-/

import JitExplorer.Proofs.Session.Threads
import JitExplorer.Session.DecodingEditor

set_option autoImplicit false

namespace JitExplorer.Session

/-! ### Pairs -/

/-- The last end of a run of a document, among some ends with the last one first. -/
def lastOf (uri : String) (ended : List Ended) : Option Ended :=
  ended.find? fun e => e.task.uri == uri

/-- **What is kept comes in pairs,** and is what runs stored. -/
structure IsPaired (stored : List Ended) (s : Session) : Prop where
  keys : s.blocks.keys = s.diagnostics.keys
  single : ∀ uri diagnostics, s.diagnostics.get? uri = some diagnostics → diagnostics.length ≤ 1
  apart : ∀ uri diagnostics, s.diagnostics.get? uri = some diagnostics → diagnostics ≠ [] →
    s.blocks.get? uri = some []
  last : ∀ uri block blocks, s.blocks.get? uri = some (block :: blocks) →
    ∃ e, lastOf uri stored = some e ∧ e.result = .ok (block :: blocks)

/-- Two sessions keep the same. -/
structure SameCaches (s t : Session) : Prop where
  blocks : t.blocks = s.blocks
  diagnostics : t.diagnostics = s.diagnostics

theorem SameCaches.of_core {s t : Session} (h : t.core = s.core) : SameCaches s t := by
  have hsame : SameCaches s.core t.core := by
    rw [h]
    exact ⟨rfl, rfl⟩
  exact ⟨hsame.blocks, hsame.diagnostics⟩

namespace IsPaired

variable {stored : List Ended} {s t : Session} {uri : String}

theorem of_empty {stored : List Ended} (hblocks : s.blocks = {})
    (hdiagnostics : s.diagnostics = {}) : IsPaired stored s where
  keys := by rw [hblocks, hdiagnostics]; rfl
  single := by simp [hdiagnostics]
  apart := by simp [hdiagnostics]
  last := by simp [hblocks]

theorem of_sameCaches (h : IsPaired stored s) (hsame : SameCaches s t) : IsPaired stored t where
  keys := by rw [hsame.blocks, hsame.diagnostics]; exact h.keys
  single := by rw [hsame.diagnostics]; exact h.single
  apart := by rw [hsame.blocks, hsame.diagnostics]; exact h.apart
  last := by rw [hsame.blocks]; exact h.last

/-- What is dropped is dropped on both sides. -/
theorem dropped (h : IsPaired stored s) (uri : String) :
    IsPaired stored (s.dropDocument uri) where
  keys := by simp only [dropDocument, Table.keys_erase, h.keys]
  single := by
    intro other diagnostics hget
    simp only [dropDocument, Table.get?_erase] at hget
    split at hget
    · cases hget
    · exact h.single other diagnostics hget
  apart := by
    intro other diagnostics hget hne
    simp only [dropDocument, Table.get?_erase] at hget ⊢
    split at hget
    · cases hget
    · rename_i hother
      rw [if_neg hother]
      exact h.apart other diagnostics hget hne
  last := by
    intro other block blocks hget
    simp only [dropDocument, Table.get?_erase] at hget
    split at hget
    · cases hget
    · exact h.last other block blocks hget

/-- What is kept is kept on both sides.  Blocks have to be those of the last end, and there are none
beside a diagnostic. -/
theorem stores {later : List Ended} (h : IsPaired stored s) {blocks : List Block}
    {diagnostics : List Diagnostic} (hsingle : diagnostics.length ≤ 1)
    (hapart : diagnostics ≠ [] → blocks = [])
    (hlast : blocks ≠ [] → ∃ e, lastOf uri later = some e ∧ e.result = .ok blocks)
    (hothers : ∀ other, uri ≠ other → lastOf other later = lastOf other stored) :
    IsPaired later (s.store uri blocks diagnostics) where
  keys := by simp only [store, Table.keys_set, h.keys]
  single := by
    intro other found hget
    simp only [store, Table.get?_set] at hget
    split at hget
    · cases hget
      exact hsingle
    · exact h.single other found hget
  apart := by
    intro other found hget hne
    simp only [store, Table.get?_set] at hget ⊢
    split at hget
    · rename_i hother
      cases hget
      rw [if_pos hother, hapart hne]
    · rename_i hother
      rw [if_neg hother]
      exact h.apart other found hget hne
  last := by
    intro other block found hget
    simp only [store, Table.get?_set] at hget
    split at hget
    · rename_i hother
      subst hother
      cases hget
      exact hlast (by simp)
    · rename_i hother
      rw [hothers other hother]
      exact h.last other block found hget

/-- Nothing is kept for a document that is skipped. -/
theorem stores_nothing (h : IsPaired stored s) (uri : String) :
    IsPaired stored (s.store uri [] []) :=
  h.stores (Nat.zero_le _) (fun _ => rfl) (fun hne => absurd rfl hne) fun _ _ => rfl

/-- The end of a run is stored. -/
theorem stores_end (h : IsPaired stored s) (e : Ended) :
    IsPaired (e :: stored)
      (s.store e.task.uri (resultBlocks e.result) (resultDiagnostics e.result)) := by
  refine h.stores ?_ ?_ ?_ ?_
  · cases e.result <;> simp [resultDiagnostics]
  · cases e.result <;> simp [resultDiagnostics, resultBlocks]
  · intro hne
    refine ⟨e, by simp [lastOf], ?_⟩
    cases hresult : e.result with
    | ok blocks => rfl
    | error fault => simp [hresult, resultBlocks] at hne
  · intro other hother
    simp [lastOf, hother]

end IsPaired

/-! ### Pieces -/

/-- A piece changes what is kept. -/
def Piece.changesCaches : Piece → Bool
  | .keep _ _ _ => true
  | .drop _ => true
  | .wipe => true
  | _ => false

/-- A piece follows the end of a process, and stores nothing. -/
def Piece.isQuiet : Piece → Bool
  | .log _ _ => true
  | .send _ => true
  | .refresh => true
  | .collect _ => true
  | _ => false

/-- A piece belongs to no run that was started, so that it keeps nothing for a document. -/
def Piece.isSpare : Piece → Bool
  | .explore _ => false
  | .release _ => false
  | .keep _ blocks diagnostics => blocks.isEmpty && diagnostics.isEmpty
  | _ => true

/-- **All other pieces leave alone what is kept.** -/
theorem Piece.act_sameCaches [Editor] {piece : Piece} (h : piece.changesCaches = false)
    (answer : Answer)
    (s : Session) : SameCaches s (piece.act answer s).2 := by
  cases piece
  case keep | drop | wipe => cases h
  case refresh => exact .of_core (refresh_core answer.refusal s)
  case fetch path uri reading =>
    simp only [act, documentText_snd]
    exact ⟨rfl, rfl⟩
  case explore task =>
    simp only [act, outcome]
    repeat' split
    all_goals exact ⟨rfl, rfl⟩
  all_goals
    simp only [act]
    repeat' split
    all_goals exact ⟨rfl, rfl⟩

/-- All pieces that come next, if some do, are of some sort. -/
def areAll (sort : Piece → Bool) : Except Failure (List Piece) → Bool
  | .ok more => more.all sort
  | .error _ => true

/-- A quiet piece goes on with quiet pieces. -/
theorem Piece.act_isQuiet [Editor] {piece : Piece} (h : piece.isQuiet = true) (answer : Answer)
    (s : Session) : areAll Piece.isQuiet (piece.act answer s).1 = true := by
  cases piece
  case log | send | collect => rfl
  case refresh =>
    cases hresult : (Session.refresh answer.refusal s).1 <;> simp only [act, hresult] <;> rfl
  all_goals cases h

/-- A spare piece goes on with spare pieces. -/
theorem Piece.act_isSpare [Editor] {piece : Piece} (h : piece.isSpare = true) (answer : Answer)
    (s : Session) : areAll Piece.isSpare (piece.act answer s).1 = true := by
  cases piece
  case explore | release => cases h
  case refresh =>
    cases hresult : (Session.refresh answer.refusal s).1 <;> simp only [act, hresult] <;> rfl
  case fetch path uri reading =>
    cases hresult : (documentText reading uri s).1 <;> simp only [act, hresult] <;> rfl
  case wipe => simp [act, areAll, isSpare]
  all_goals
    simp only [act]
    repeat' split
    all_goals rfl

/-! ### Threads -/

/-- **The forms of a thread** whose last process came to an end, as far as they matter for what is
kept. -/
inductive HasForm (ended : Option Ended) : List Piece → Prop where
  | starting {level : Log.Level} {message : String} {task : Task} :
      HasForm ended [.log level message, .explore task, .release task.uri]
  | exploring {task : Task} : HasForm ended [.explore task, .release task.uri]
  /-- The end of the process is about to be stored. -/
  | storing {e : Ended} {pieces : List Piece} :
      ended = some e → (∀ piece ∈ pieces, piece.isQuiet = true) →
        HasForm ended (.keep e.task.uri (resultBlocks e.result) (resultDiagnostics e.result) ::
          (pieces ++ [.release e.task.uri]))
  /-- The document is about to be released. -/
  | releasing {uri : String} {pieces : List Piece} :
      (∀ piece ∈ pieces, piece.isQuiet = true) → HasForm ended (pieces ++ [.release uri])
  | spare {pieces : List Piece} : (∀ piece ∈ pieces, piece.isSpare = true) → HasForm ended pieces

/-- How the last process of a thread came to its end, once the thread has done its first piece. -/
def endedAfter (answer : Answer) (ended : Option Ended) : List Piece → Option Ended
  | .explore task :: _ => some { task, result := answer.result }
  | _ => ended

/-- The end that a thread stores with its first piece: a thread that is yet to release a document
keeps what its process came to. -/
def storedNow (ended : Option Ended) : List Piece → List Ended
  | .keep _ _ _ :: pieces => if pieces.any Piece.isRelease then ended.toList else []
  | _ => []

theorem Piece.isRelease_of_isQuiet {piece : Piece} (h : piece.isQuiet = true) :
    piece.isRelease = false := by
  cases piece <;> first | rfl | cases h

theorem Piece.isRelease_of_isSpare {piece : Piece} (h : piece.isSpare = true) :
    piece.isRelease = false := by
  cases piece <;> first | rfl | cases h

/-- A thread keeps the pairs and its form when it does a piece. -/
structure KeepsPairs (ended : Option Ended) (stored : List Ended)
    (after : List Piece × Session) : Prop where
  form : HasForm ended after.1
  paired : IsPaired stored after.2

/-- What a thread keeps that does no run is no end of a run. -/
theorem storedNow_of_isSpare {ended : Option Ended} {pieces : List Piece}
    (h : ∀ piece ∈ pieces, piece.isSpare = true) : storedNow ended pieces = [] := by
  cases pieces with
  | nil => rfl
  | cons piece pieces =>
      have hnone : pieces.any Piece.isRelease = false :=
        List.any_eq_false.2 fun other hother => by
          simp [Piece.isRelease_of_isSpare (h other (List.mem_cons_of_mem piece hother))]
      cases piece
      case keep => simp [storedNow, hnone]
      all_goals rfl

section Advance

variable [Editor] {ended : Option Ended} {stored : List Ended} {s : Session} {pieces : List Piece}

/-- The process comes to its end. -/
theorem keepsPairs_exploring (h : IsPaired stored s) (task : Task) (answer : Answer) :
    KeepsPairs (some { task, result := answer.result }) stored
      (advance answer ([.explore task, .release task.uri], s)) := by
  refine ⟨?_, h.of_sameCaches (Piece.act_sameCaches rfl answer s)⟩
  have hstoring : ∀ pieces : List Piece, (∀ piece ∈ pieces, piece.isQuiet = true) →
      HasForm (some { task, result := answer.result })
        (.keep task.uri (resultBlocks answer.result) (resultDiagnostics answer.result) ::
          (pieces ++ [.release task.uri])) :=
    fun pieces hpieces => .storing (e := { task, result := answer.result }) rfl hpieces
  have hreleasing : HasForm (some { task, result := answer.result }) ([] ++ [.release task.uri]) :=
    .releasing (by simp)
  simp only [advance, Piece.act]
  cases hresult : answer.result with
  | ok blocks =>
      rw [hresult] at hstoring
      exact hstoring _ (by simp [Piece.isQuiet])
  | error fault =>
      rw [hresult] at hstoring hreleasing
      have hreported := hstoring [.collect task.uri] (by simp [Piece.isQuiet])
      cases fault with
      | stopped => exact hreported
      | exited code errors => exact hreported
      | raised failure =>
          unfold outcome
          dsimp only
          split
          · exact hreported
          · exact hreleasing

/-- A quiet piece is done in front of the release, or the thread goes on with the release. -/
theorem keepsPairs_quiet (h : IsPaired stored s) {uri : String} {piece : Piece}
    (hpiece : piece.isQuiet = true) (hpieces : ∀ other ∈ pieces, other.isQuiet = true)
    (answer : Answer) :
    KeepsPairs ended stored (advance answer (piece :: (pieces ++ [.release uri]), s)) := by
  have hunchanged : piece.changesCaches = false := by
    cases piece <;> first | rfl | cases hpiece
  refine ⟨?_, h.of_sameCaches (Piece.act_sameCaches hunchanged answer s)⟩
  have hmore := Piece.act_isQuiet hpiece answer s
  simp only [advance]
  cases hresult : (piece.act answer s).1 with
  | ok more =>
      rw [hresult] at hmore
      rw [follow, ← List.append_assoc]
      refine .releasing fun other hother => ?_
      rcases List.mem_append.1 hother with hother | hother
      · exact List.all_eq_true.1 hmore other hother
      · exact hpieces other hother
  | error failure =>
      have hdrop : (pieces ++ [Piece.release uri]).dropWhile (fun piece => !piece.isRelease) =
          [] ++ [.release uri] := by
        refine (List.dropWhile_append_of_pos fun other hother => ?_).trans rfl
        rw [Piece.isRelease_of_isQuiet (hpieces other hother)]
        rfl
      rw [follow, hdrop]
      exact .releasing (by simp)

/-- The document is released, and may be run again. -/
theorem keepsPairs_release (h : IsPaired stored s) (uri : String) (answer : Answer) :
    KeepsPairs ended stored (advance answer ([.release uri], s)) := by
  refine ⟨.spare ?_, h.of_sameCaches (Piece.act_sameCaches rfl answer s)⟩
  simp only [advance, Piece.act, follow, List.append_nil]
  split <;> simp [Piece.isSpare]

/-- A thread that does no run goes on like this. -/
theorem isSpare_advance (h : ∀ piece ∈ pieces, piece.isSpare = true) (answer : Answer)
    (s : Session) : ∀ piece ∈ (advance answer (pieces, s)).1, piece.isSpare = true := by
  cases pieces with
  | nil => exact h
  | cons piece pieces =>
      obtain ⟨hpiece, hpieces⟩ := List.forall_mem_cons.1 h
      have hmore := Piece.act_isSpare hpiece answer s
      simp only [advance]
      cases hresult : (piece.act answer s).1 with
      | ok more =>
          rw [hresult] at hmore
          intro other hother
          rcases List.mem_append.1 hother with hother | hother
          · exact List.all_eq_true.1 hmore other hother
          · exact hpieces other hother
      | error failure =>
          have hdrop : pieces.dropWhile (fun piece => !piece.isRelease) = [] := by
            rw [← List.append_nil pieces]
            refine (List.dropWhile_append_of_pos fun other hother => ?_).trans rfl
            rw [Piece.isRelease_of_isSpare (hpieces other hother)]
            rfl
          rw [follow, hdrop]
          simp

/-- A thread that does no run keeps nothing for a document. -/
theorem isPaired_advance (h : IsPaired stored s) (hspare : ∀ piece ∈ pieces, piece.isSpare = true)
    (answer : Answer) : IsPaired stored (advance answer (pieces, s)).2 := by
  cases pieces with
  | nil => exact h
  | cons piece pieces =>
      have hpiece := hspare piece List.mem_cons_self
      cases hchanges : piece.changesCaches with
      | false => exact h.of_sameCaches (Piece.act_sameCaches hchanges answer s)
      | true =>
          cases piece
          case keep uri blocks diagnostics =>
            obtain ⟨hblocks, hdiagnostics⟩ := Bool.and_eq_true_iff.1 hpiece
            obtain rfl := List.isEmpty_iff.1 hblocks
            obtain rfl := List.isEmpty_iff.1 hdiagnostics
            exact h.stores_nothing uri
          case drop uri => exact h.dropped uri
          case wipe => exact .of_empty rfl rfl
          all_goals cases hchanges

/-- **A thread keeps its form and the pairs with every piece that it does.** -/
theorem HasForm.advance (hform : HasForm ended pieces) (h : IsPaired stored s) (answer : Answer) :
    KeepsPairs (endedAfter answer ended pieces) (storedNow ended pieces ++ stored)
      (advance answer (pieces, s)) := by
  cases hform with
  | starting => exact ⟨.exploring, h.of_sameCaches (Piece.act_sameCaches rfl answer s)⟩
  | exploring => exact keepsPairs_exploring h _ answer
  | storing hended hquiet =>
      rename_i e pieces
      subst hended
      refine ⟨.releasing hquiet, ?_⟩
      simp only [storedNow, List.any_append, List.any_cons, Piece.isRelease, Bool.true_or,
        Bool.or_true, if_true]
      exact h.stores_end e
  | releasing hquiet =>
      rename_i uri pieces
      cases pieces with
      | nil => exact keepsPairs_release h uri answer
      | cons piece pieces =>
          obtain ⟨hpiece, hpieces⟩ := List.forall_mem_cons.1 hquiet
          have hkeeps : KeepsPairs ended stored
              (JitExplorer.Session.advance answer (piece :: (pieces ++ [.release uri]), s)) :=
            keepsPairs_quiet h hpiece hpieces answer
          cases piece <;> first | exact hkeeps | cases hpiece
  | spare hspare =>
      rw [storedNow_of_isSpare hspare]
      exact ⟨.spare (isSpare_advance hspare answer s), isPaired_advance h hspare answer⟩

end Advance

/-! ### Ledgers -/

/-- The server with its threads, and what is to be known about its past. -/
structure Ledger where
  machine : Machine
  /-- How the process of each worker's run came to its end. -/
  ends : Nat → Option Ended := fun _ => none
  /-- The ends that were stored, the last one first. -/
  stored : List Ended := []

namespace Ledger

/-- **One turn of the server,** with what is noted about it. -/
def turn [Editor] (l : Ledger) (t : Turn) : Ledger :=
  match t with
  | .work place answer =>
      match l.machine.workers[place]? with
      | none => l
      | some pieces =>
          { machine := l.machine.turn t
            ends := fun other =>
              if other = place then endedAfter answer (l.ends place) pieces else l.ends other
            stored := storedNow (l.ends place) pieces ++ l.stored }
  | _ => { l with machine := l.machine.turn t }

/-- Several turns of the server. -/
def run [Editor] (l : Ledger) (turns : List Turn) : Ledger :=
  turns.foldl turn l

/-- The ledger of a server that was just started with some interpreter and stage. -/
def fresh (interpreter stage : Datum) : Ledger where
  machine := .fresh interpreter stage

/-- A ledger only takes notes. -/
theorem machine_turn [Editor] (l : Ledger) (t : Turn) : (l.turn t).machine = l.machine.turn t := by
  cases t with
  | work place answer =>
      simp only [turn, Machine.turn]
      cases l.machine.workers[place]? with
      | none => rfl
      | some pieces => rfl
  | request request => rfl
  | main answer => rfl
  | take => rfl

theorem machine_run [Editor] (l : Ledger) (turns : List Turn) :
    (l.run turns).machine = l.machine.run turns := by
  induction turns generalizing l with
  | nil => rfl
  | cons t turns ih =>
      exact (ih (l.turn t)).trans (congrArg (Machine.run · turns) (machine_turn l t))

/-- All threads have one of the forms, and what is kept comes in pairs.  The main thread never does
a run. -/
structure IsSound (l : Ledger) : Prop where
  main : ∀ piece ∈ l.machine.main, piece.isSpare = true
  workers : ∀ place pieces, l.machine.workers[place]? = some pieces →
    HasForm (l.ends place) pieces
  paired : IsPaired l.stored l.machine.session

theorem isSound_fresh (interpreter stage : Datum) : (fresh interpreter stage).IsSound where
  main := by simp [fresh, Machine.fresh]
  workers := by simp [fresh, Machine.fresh]
  paired := .of_empty rfl rfl

/-- A request begins with spare pieces. -/
theorem isSpare_of_mem_pieces (request : Request) :
    ∀ piece ∈ request.pieces, piece.isSpare = true := by
  cases request with
  | event e => cases e <;> simp [Request.pieces, Event.pieces, Piece.isSpare]
  | hints uri first last reading => simp [Request.pieces, Piece.isSpare]

variable {l : Ledger}

/-- **Every turn keeps a ledger sound.** -/
theorem IsSound.turn [Editor] (h : l.IsSound) (t : Turn) : (l.turn t).IsSound := by
  cases t with
  | request request =>
      simp only [Ledger.turn, Machine.turn]
      split
      · exact ⟨isSpare_of_mem_pieces request, h.workers, h.paired⟩
      · exact h
  | main answer =>
      exact ⟨isSpare_advance h.main answer _, h.workers, isPaired_advance h.paired h.main answer⟩
  | take =>
      simp only [Ledger.turn, Machine.turn, takeTask?]
      cases hqueue : l.machine.session.queue with
      | nil => exact h
      | cons task queue =>
          refine ⟨h.main, ?_, h.paired.of_sameCaches ⟨rfl, rfl⟩⟩
          intro place pieces hplace
          rw [List.getElem?_append] at hplace
          split at hplace
          · exact h.workers place pieces hplace
          · obtain rfl : pieces = task.pieces := by
              simpa using List.mem_of_getElem? hplace
            exact .starting
  | work place answer =>
      simp only [Ledger.turn, Machine.turn]
      cases hplace : l.machine.workers[place]? with
      | none => exact h
      | some pieces =>
          have hkeeps := (h.workers place pieces hplace).advance h.paired answer
          refine ⟨h.main, ?_, hkeeps.paired⟩
          intro other others hother
          rw [List.getElem?_set] at hother
          by_cases heq : other = place
          · subst heq
            have hlt := (List.getElem?_eq_some_iff.1 hplace).1
            rw [if_pos rfl, if_pos hlt] at hother
            cases hother
            simpa using hkeeps.form
          · rw [if_neg (Ne.symm heq)] at hother
            simpa [heq] using h.workers other others hother

/-- Every ledger that the server comes to is sound. -/
theorem isSound_run [Editor] (interpreter stage : Datum) (turns : List Turn) :
    ((fresh interpreter stage).run turns).IsSound := by
  have hall : ∀ l : Ledger, l.IsSound → (l.run turns).IsSound := by
    induction turns with
    | nil => exact fun l hl => hl
    | cons t turns ih => exact fun l hl => ih _ (hl.turn t)
  exact hall _ (isSound_fresh interpreter stage)

/-- **What is kept comes in pairs.**  However the threads of the server take their turns, blocks and
diagnostics are kept for the same documents; there is at most one diagnostic for a document, and no
block beside it; and if there are blocks for a document, they are those that the last run stored
that stored anything for it. -/
theorem caches_paired [Editor] (interpreter stage : Datum) (turns : List Turn) :
    let l := (fresh interpreter stage).run turns
    let s := l.machine.session
    l.machine = (Machine.fresh interpreter stage).run turns ∧
      s.blocks.keys = s.diagnostics.keys ∧
      (∀ uri diagnostics, s.diagnostics.get? uri = some diagnostics →
        diagnostics.length ≤ 1 ∧ (diagnostics ≠ [] → s.blocks.get? uri = some [])) ∧
      ∀ uri block blocks, s.blocks.get? uri = some (block :: blocks) →
        ∃ e, lastOf uri l.stored = some e ∧ e.result = .ok (block :: blocks) := by
  have hpaired := (isSound_run interpreter stage turns).paired
  refine ⟨machine_run _ turns, hpaired.keys, ?_, hpaired.last⟩
  exact fun uri diagnostics hget =>
    ⟨hpaired.single uri diagnostics hget, hpaired.apart uri diagnostics hget⟩

section Decoding

attribute [local instance] Editor.decoding

/-- The block of a run whose document has not been released yet. -/
example :
    let block : Block := ⟨1, 1, "f", "", "x"⟩
    let l := (fresh (.text "python") (.text "native")).run
      (.request (.event (.opened "file:///work/kernels.py" "")) :: List.replicate 8 (.main {}) ++
        .take :: List.replicate 3 (.work 0 { result := .ok [block] }))
    l.machine.session.blocks.get? "file:///work/kernels.py" = some [block] ∧
      l.stored.length = 1 := by
  decide +kernel

end Decoding

end Ledger

end JitExplorer.Session
