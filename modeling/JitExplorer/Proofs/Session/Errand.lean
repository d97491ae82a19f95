/-
**What a thread is about to do for a document.**

A document is served while it is open under its one URI, with an interpreter, and its runs come to
ordinary results.  An errand is what a thread is about to do for such a document, if it is about to
do anything: it replaces the text, looks it up, asks for a run, prepares the run that the document
was given, does that run, or keeps its result and releases the document.

Main definitions:

* `Session.Agrees` — what the server knows of a document agrees with its past;
* `Session.Errand` — what a thread is about to do for a document;
* `Session.Covers` — a thread is about to look up the newest text, or to ask for a run of it.

Main results:

* `Session.Errand.extend` — an errand is none the worse for what other threads do;
* `Session.Errand.proceeds` — **a thread goes on with its errand,** and keeps the promise of a run
  of the newest text.
-/

import JitExplorer.Proofs.Session.Record

set_option autoImplicit false

namespace JitExplorer.Session

/-! ### Errands -/

/-- A document with this URI is a source, and known under just this URI. -/
structure IsPlainSource [Editor] (uri : String) : Prop where
  key : Editor.key uri = uri
  source : IsSource uri

/-- A piece heads for a look-up of the text of a document. -/
def Piece.isHeading (uri : String) : Piece → Bool
  | .handle _ other _ => other == uri
  | .fetch _ other _ => other == uri
  | .reread other => other == uri
  | _ => false

/-- A piece comes with a text for the case that its document is not open. -/
def Piece.hasReading : Piece → Bool
  | .handle _ _ reading => reading.isOk
  | .fetch _ _ reading => reading.isOk
  | _ => false

/-- The text with which a piece asks for a run of a document. -/
def Piece.askedText? (uri : String) : Piece → Option String
  | .ask text _ other => if other = uri then some text else none
  | .claim text _ other => if other = uri then some text else none
  | _ => none

/-- The text with which a piece prepares the run that a document was given. -/
def Piece.preparedText? (uri : String) : Piece → Option String
  | .equip text _ other => if other = uri then some text else none
  | .aim text _ other _ => if other = uri then some text else none
  | .put task => if task.uri = uri then some task.invocation.text else none
  | _ => none

/-- A piece has nothing to do with a document yet.  The main thread may visit the documents with
their newest texts. -/
inductive IsCalm [Editor] (uri : String) (r : Record) : Bool → Piece → Prop where
  | aside {again : Bool} {piece : Piece} : piece.isAside uri = true → IsCalm uri r again piece
  | name {interpreter : Datum} : interpreter.isOn = true → IsCalm uri r false (.name interpreter)
  | visit {documents : List Document} :
      (∀ d ∈ documents, d.uri = uri → r.given.getLast? = some d.text) →
        IsCalm uri r false (.visit documents)

/-- What is kept for a document is the result of the last run that came to an end, if one did. -/
def IsKept (a : Side) (r : Record) : Prop :=
  ∀ e, r.ended.getLast? = some e →
    a.blocks = some (resultBlocks e.result) ∧ a.diagnostics = some (resultDiagnostics e.result)

/-- **What a thread is about to do for a document.**  Only the main thread gives texts; a worker,
which may ask for another run, is told apart from it.  No thread comes with a text for a document
that was never given one. -/
inductive Errand [Editor] (uri : String) (again : Bool) (a : Side) (r : Record) (l : Lookup) :
    List Piece → Prop where
  | calm {pieces : List Piece} :
      (∀ piece ∈ pieces, IsCalm uri r again piece) → Errand uri again a r l pieces
  | replacing {event text : String} :
      again = false → Errand uri again a r l [.replace event uri text]
  | heading {piece : Piece} {rest : List Piece} :
      piece.isHeading uri = true → (piece.hasReading = true → r.given ≠ []) →
        (∀ other ∈ rest, IsCalm uri r again other) → Errand uri again a r l (piece :: rest)
  | asking {text : String} {piece : Piece} {rest : List Piece} :
      piece.askedText? uri = some text → r.IsLookup again l text →
        (∀ other ∈ rest, IsCalm uri r again other) → Errand uri again a r l (piece :: rest)
  | preparing {text : String} {piece : Piece} {rest : List Piece} :
      piece.preparedText? uri = some text → r.IsPrepared text →
        (∀ other ∈ rest, IsCalm uri r again other) → Errand uri again a r l (piece :: rest)
  | starting {level : Log.Level} {message : String} {task : Task} :
      again = true → task.uri = uri → r.IsGoing task →
        Errand uri again a r l [.log level message, .explore task, .release uri]
  | exploring {task : Task} :
      again = true → task.uri = uri → r.IsGoing task →
        Errand uri again a r l [.explore task, .release uri]
  | storing {e : Ended} {quiet : List Piece} :
      r.IsDone → r.ended.getLast? = some e → (∀ piece ∈ quiet, piece.isQuiet = true) →
        Errand uri again a r l
          (.keep uri (resultBlocks e.result) (resultDiagnostics e.result) ::
            (quiet ++ [.release uri]))
  | settled {quiet : List Piece} :
      r.IsDone → IsKept a r → (∀ piece ∈ quiet, piece.isQuiet = true) →
        Errand uri again a r l (quiet ++ [.release uri])

/-- **What the server knows of a document agrees with its past.** -/
structure Agrees (uri : String) (a : Side) (r : Record) : Prop where
  documents : a.documents = (r.given.getLast?.map (Document.mk uri)).toList
  orderly : r.IsOrderly
  resting : a.running = false → r.IsDone ∧ IsKept a r
  queued : ∀ task ∈ a.queued, r.IsPrepared task.invocation.text

/-- A thread is about to look up the newest text of a document, or to ask for a run of it. -/
def Covers (uri : String) (r : Record) (l : Lookup) : List Piece → Prop
  | [] => False
  | piece :: _ =>
      piece.isHeading uri = true ∨
        (piece.askedText? uri).isSome = true ∧ l.version = r.given.length

/-! ### What other threads do -/

section Extend

variable {uri : String} {again : Bool} {a a' : Side} {r r' : Record} {l : Lookup}
  {pieces : List Piece}

/-- The run of a document gets no further. -/
structure SameRun (a : Side) (r : Record) (a' : Side) (r' : Record) : Prop where
  claims : r'.claims = r.claims
  started : r'.started = r.started
  ended : r'.ended = r.ended
  blocks : a'.blocks = a.blocks
  diagnostics : a'.diagnostics = a.diagnostics

theorem SameRun.isDone (h : SameRun a r a' r') (hdone : r.IsDone) : r'.IsDone := by
  unfold Record.IsDone
  rw [h.claims, h.started, h.ended]
  exact hdone

theorem SameRun.isGoing (h : SameRun a r a' r') {task : Task} (hgoing : r.IsGoing task) :
    r'.IsGoing task := by
  unfold Record.IsGoing
  rw [h.claims, h.started, h.ended]
  exact hgoing

theorem SameRun.isKept (h : SameRun a r a' r') (hkept : IsKept a r) : IsKept a' r' := by
  unfold IsKept
  rw [h.ended, h.blocks, h.diagnostics]
  exact hkept

theorem IsCalm.extend [Editor] {piece : Piece} (h : IsCalm uri r again piece)
    (hgiven : again = false → r'.given = r.given) : IsCalm uri r' again piece := by
  cases h with
  | aside h => exact .aside h
  | name h => exact .name h
  | visit h => exact .visit (by rw [hgiven rfl]; exact h)

theorem held_pos_of_preparedText? {piece : Piece} {rest : List Piece} {text : String}
    (h : piece.preparedText? uri = some text) : 0 < held uri (piece :: rest) := by
  have hholds : piece.holds uri = true := by
    cases piece <;> simp_all [Piece.preparedText?, Piece.holds]
  rw [held_cons, hholds]
  exact Nat.succ_pos _

theorem held_pos_of_release (front : List Piece) : 0 < held uri (front ++ [.release uri]) := by
  rw [held_append]
  have hrelease : held uri [.release uri] = 1 := by simp [held, Piece.holds]
  omega

/-- **An errand is none the worse for what other threads do:** these give no texts beside the main
thread, and while this thread holds the document its run gets no further without it. -/
theorem Errand.extend [Editor] (h : Errand uri again a r l pieces) (horderly : r.IsOrderly)
    (hext : r.Extends r') (hgiven : again = false → r'.given = r.given)
    (hrun : SameRun a r a' r' ∨ held uri pieces = 0) : Errand uri again a' r' l pieces := by
  have hrest : ∀ {rest : List Piece}, (∀ other ∈ rest, IsCalm uri r again other) →
      ∀ other ∈ rest, IsCalm uri r' again other :=
    fun hcalm other hother => (hcalm other hother).extend hgiven
  have hsame : 0 < held uri pieces → SameRun a r a' r' :=
    fun hheld => hrun.resolve_right (Nat.ne_of_gt hheld)
  cases h with
  | calm h => exact .calm (hrest h)
  | replacing h => exact .replacing h
  | heading h hreading hcalm =>
      refine .heading h (fun hhas hnone => hreading hhas ?_) (hrest hcalm)
      exact List.prefix_nil.1 (hnone ▸ hext.given)
  | asking h hlookup hcalm => exact .asking h (hlookup.extend hext hgiven) (hrest hcalm)
  | preparing h hprepared hcalm =>
      have hsame := hsame (held_pos_of_preparedText? h)
      exact .preparing h
        (hprepared.extend horderly hext hsame.claims hsame.started hsame.ended) (hrest hcalm)
  | starting hworker huri hgoing =>
      exact .starting hworker huri ((hsame (held_pos_of_release [_, _])).isGoing hgoing)
  | exploring hworker huri hgoing =>
      exact .exploring hworker huri ((hsame (held_pos_of_release [_])).isGoing hgoing)
  | storing hdone hlast hquiet =>
      have hsame := hsame (held_pos_of_release (_ :: _))
      exact .storing (hsame.isDone hdone) (by rw [hsame.ended, hlast]) hquiet
  | settled hdone hkept hquiet =>
      have hsame := hsame (held_pos_of_release _)
      exact .settled (hsame.isDone hdone) (hsame.isKept hkept) hquiet

theorem Covers.of_given (h : Covers uri r l pieces) (hgiven : r'.given = r.given) :
    Covers uri r' l pieces := by
  cases pieces with
  | nil => exact h
  | cons piece pieces =>
      unfold Covers at h ⊢
      rwa [hgiven]

end Extend

/-! ### What the thread itself does -/

/-- A run of the newest text of a document was given, or is promised: the document is marked, or a
thread covers it. -/
def IsPromised (uri : String) (s : Session) (r : Record) (l : Lookup) (pieces : List Piece) :
    Prop :=
  r.HasNewest ∨ s.isPending uri = true ∨ Covers uri r l pieces

/-- **A thread goes on with its errand.** -/
structure Proceeds [Editor] (uri : String) (again : Bool) (s : Session) (r : Record) (l : Lookup)
    (pieces : List Piece) (s' : Session) (r' : Record) (l' : Lookup) (pieces' : List Piece) :
    Prop where
  errand : Errand uri again (s'.side uri) r' l' pieces'
  agrees : Agrees uri (s'.side uri) r'
  on : s'.hasInterpreter = true
  past : r.Extends r'
  given : again = true → r'.given = r.given
  alone : SameRun (s.side uri) r (s'.side uri) r' ∨ s.isRunning uri = false ∨ 0 < held uri pieces
  promised : (r'.given = r.given → IsPromised uri s r l pieces) → IsPromised uri s' r' l' pieces'

/-- What is noted when a thread does its first piece. -/
def Record.noted [Editor] (uri : String) (again : Bool) (l : Lookup) (answer : Answer) (s : Session)
    (r : Record) : List Piece → Record
  | [] => r
  | piece :: _ => r.note uri again l answer s piece

/-- The last look-up of a thread that does its first piece. -/
def Record.looked (r : Record) (l : Lookup) : List Piece → Lookup
  | [] => l
  | piece :: _ => r.lookup l piece

section Before

variable {uri : String} {s s' : Session} {r : Record} {l l' : Lookup} {pieces rest : List Piece}

theorem SameRun.of_side (h : s'.side uri = s.side uri) (r : Record) :
    SameRun (s.side uri) r (s'.side uri) r :=
  ⟨rfl, rfl, rfl, by rw [h], by rw [h]⟩

/-- A piece that neither heads for a look-up of the document nor asks for a run of it does not cover
it. -/
theorem not_covers {piece : Piece} (hheading : piece.isHeading uri = false)
    (hasked : piece.askedText? uri = none) : ¬ Covers uri r l (piece :: rest) := by
  simp [Covers, hheading, hasked]

/-- What is promised stays so when a thread that does not cover the document does a piece, as long
as no text is given and the document stays marked. -/
theorem IsPromised.of_not_covers {r' : Record} {pieces' : List Piece}
    (h : IsPromised uri s r l pieces) (hcovers : ¬ Covers uri r l pieces)
    (hclaims : r'.claims = r.claims) (hgiven : r'.given = r.given)
    (hpending : s'.isPending uri = s.isPending uri) : IsPromised uri s' r' l' pieces' := by
  rcases h with hnewest | hmarked | hhead
  · left
    unfold Record.HasNewest at hnewest ⊢
    rwa [hclaims, hgiven]
  · exact .inr (.inl (hpending.trans hmarked))
  · exact absurd hhead hcovers

/-- A document of the session has its newest text. -/
theorem Agrees.text_of_mem (hagrees : Agrees uri (s.side uri) r) {document : Document}
    (hmem : document ∈ s.documents) (huri : document.uri = uri) :
    r.given.getLast? = some document.text := by
  have hside : document ∈ (s.side uri).documents := List.mem_filter.2 ⟨hmem, by simp [huri]⟩
  rw [hagrees.documents] at hside
  cases hlast : r.given.getLast? with
  | none => simp [hlast] at hside
  | some text =>
      have heq : document = { uri, text } := by simpa [hlast] using hside
      rw [heq]

/-- The text of the document that a thread looks up is its newest one. -/
theorem Agrees.document? (hagrees : Agrees uri (s.side uri) r) :
    s.document? uri = r.given.getLast?.map (Document.mk uri) := by
  rw [document?_eq_head?, hagrees.documents]
  cases r.given.getLast? <;> rfl

/-- A result that is ordinary is kept first, and the pieces behind that are quiet. -/
theorem exists_outcome_eq {result : Except Invocation.Fault (List Block)}
    (h : IsOrdinaryResult result) (uri : String) (s : Session) :
    ∃ quiet t, outcome uri s result =
        (.ok (.keep uri (resultBlocks result) (resultDiagnostics result) :: quiet), t) ∧
      t.core = s.core ∧ ∀ piece ∈ quiet, piece.isQuiet = true := by
  cases result with
  | ok blocks => exact ⟨_, _, rfl, rfl, by simp [Piece.isQuiet]⟩
  | error fault =>
      refine ⟨[.collect uri], s.addLog .error (faultRecord uri fault), ?_, rfl,
        by simp [Piece.isQuiet]⟩
      cases fault with
      | stopped => rfl
      | exited code errors => rfl
      | raised failure =>
          rw [outcome, if_pos (h failure rfl)]
          rfl

/-- While a thread holds a document, the document has a run under way, and none in the queue. -/
theorem Balanced.of_held {going : Nat} (h : Balanced uri (going + held uri pieces) s)
    (hheld : 0 < held uri pieces) : s.isRunning uri = true ∧ (s.side uri).queued = [] := by
  have hcount := h.count
  have hbound := Bool.toNat_le (s.isRunning uri)
  constructor
  · cases hrunning : s.isRunning uri with
    | true => rfl
    | false =>
        rw [hrunning, Bool.toNat_false] at hcount
        omega
  · exact List.eq_nil_of_length_eq_zero (show (s.queued uri).length = 0 by omega)

theorem Balanced.queued_of_not_running {going : Nat} (h : Balanced uri going s)
    (hrunning : s.isRunning uri = false) : (s.side uri).queued = [] := by
  have hcount := h.count
  rw [hrunning, Bool.toNat_false] at hcount
  exact List.eq_nil_of_length_eq_zero (show (s.queued uri).length = 0 by omega)

end Before

section Proceed

variable [Editor] {uri : String} {again : Bool} {s s' : Session} {r : Record} {l l' : Lookup}
  {pieces rest : List Piece} {answer : Answer}

/-- A thread goes on without anything that concerns the document. -/
theorem Proceeds.of_side {pieces' : List Piece} (hagrees : Agrees uri (s.side uri) r)
    (hside : s'.side uri = s.side uri) (hon : s'.hasInterpreter = true)
    (herrand : Errand uri again (s.side uri) r l' pieces')
    (hcovers : Covers uri r l pieces → Covers uri r l' pieces' ∨ r.given = []) :
    Proceeds uri again s r l pieces s' r l' pieces' where
  errand := by rwa [hside]
  agrees := by rwa [hside]
  on := hon
  past := .refl r
  given _ := rfl
  alone := .inl (.of_side hside r)
  promised hbefore := by
    have hpending : s'.isPending uri = s.isPending uri := congrArg Side.pending hside
    rcases hbefore rfl with hnewest | hmarked | hhead
    · exact .inl hnewest
    · exact .inr (.inl (hpending.trans hmarked))
    · rcases hcovers hhead with hcovered | hnone
      · exact .inr (.inr hcovered)
      · exact .inl (.inl hnone)

theorem isCalm_append {more : List Piece} (hmore : ∀ other ∈ more, IsCalm uri r again other)
    (hrest : ∀ other ∈ rest, IsCalm uri r again other) :
    ∀ other ∈ more ++ rest, IsCalm uri r again other := by
  intro other hother
  rcases List.mem_append.1 hother with hother | hother
  · exact hmore other hother
  · exact hrest other hother

/-- A calm thread that fails goes on calmly. -/
theorem isCalm_dropWhile (hrest : ∀ other ∈ rest, IsCalm uri r again other) :
    ∀ other ∈ rest.dropWhile (fun piece => !piece.isRelease), IsCalm uri r again other :=
  fun other hother => hrest other ((List.dropWhile_suffix _).subset hother)

theorem advance_ok {piece : Piece} {more : List Piece}
    (h : piece.act answer s = (.ok more, s')) :
    advance answer (piece :: rest, s) = (more ++ rest, s') := by
  rw [advance, h]
  rfl

theorem advance_error {piece : Piece} {failure : Failure}
    (h : piece.act answer s = (.error failure, s')) :
    advance answer (piece :: rest, s) =
      (rest.dropWhile fun piece => !piece.isRelease, s') := by
  rw [advance, h]
  rfl

/-- A calm thread does not cover a document. -/
theorem IsCalm.not_covers {piece : Piece} (h : IsCalm uri r again piece) (l : Lookup) :
    ¬ Covers uri r l (piece :: rest) := by
  cases h with
  | aside haside =>
      cases piece <;> simp_all [Covers, Piece.isAside, Piece.isHeading, Piece.askedText?]
  | name hon => exact not_covers rfl rfl
  | visit hdocuments => exact not_covers rfl rfl

/-- A thread that has nothing to do with the document goes on like this. -/
theorem proceeds_aside (hplain : IsPlainSource uri) (hagrees : Agrees uri (s.side uri) r)
    (hon : s.hasInterpreter = true) {piece : Piece} (hpiece : piece.isAside uri = true)
    (hrest : ∀ other ∈ rest, IsCalm uri r again other) (answer : Answer) :
    Proceeds uri again s r l (piece :: rest) (advance answer (piece :: rest, s)).2
      (r.note uri again l answer s piece) (r.lookup l piece)
      (advance answer (piece :: rest, s)).1 := by
  have hacts := Piece.act_isAside hplain.key hpiece answer s
  have hcalm : ∀ other ∈ (advance answer (piece :: rest, s)).1, IsCalm uri r again other := by
    have hmore := hacts.more
    rcases hact : piece.act answer s with ⟨result, t⟩
    rw [hact] at hmore
    cases result with
    | ok more =>
        rw [advance_ok hact]
        have hmore : ∀ other ∈ more, IsCalm uri r again other :=
          fun other hother => .aside (List.all_eq_true.1 hmore other hother)
        exact isCalm_append hmore hrest
    | error failure =>
        rw [advance_error hact]
        exact isCalm_dropWhile hrest
  have haside : IsCalm uri r again piece := .aside hpiece
  rw [Record.note_of_isAside hpiece]
  exact .of_side hagrees hacts.side ((congrArg Datum.isOn hacts.interpreter).trans hon)
    (.calm hcalm) fun hcovers => absurd hcovers (haside.not_covers l)

/-- The main thread visits the documents, and asks for a run of the newest text of each. -/
theorem proceeds_visit (hagrees : Agrees uri (s.side uri) r) (hon : s.hasInterpreter = true)
    {documents : List Document}
    (hdocuments : ∀ d ∈ documents, d.uri = uri → r.given.getLast? = some d.text)
    (hrest : ∀ other ∈ rest, IsCalm uri r false other) (answer : Answer) :
    Proceeds uri false s r l (.visit documents :: rest)
      (advance answer (.visit documents :: rest, s)).2 r r.look
      (advance answer (.visit documents :: rest, s)).1 := by
  have hproceeds : ∀ {pieces' : List Piece}, Errand uri false (s.side uri) r r.look pieces' →
      Proceeds uri false s r l (.visit documents :: rest) s r r.look pieces' := by
    intro pieces' herrand
    have hvisit : IsCalm uri r false (.visit documents) := .visit hdocuments
    exact .of_side hagrees rfl hon herrand fun hcovers => absurd hcovers (hvisit.not_covers l)
  cases documents with
  | nil => exact hproceeds (.calm hrest)
  | cons document documents =>
      obtain ⟨hdocument, hdocuments⟩ := List.forall_mem_cons.1 hdocuments
      have hlater : ∀ other ∈ .visit documents :: rest, IsCalm uri r false other :=
        List.forall_mem_cons.2 ⟨.visit hdocuments, hrest⟩
      cases hpath : Uri.filePath document.uri with
      | error failure =>
          have hact : (Piece.visit (document :: documents)).act answer s = (.error failure, s) := by
            simp [Piece.act, hpath]
          rw [advance_error hact]
          exact hproceeds (.calm (isCalm_dropWhile hrest))
      | ok path =>
          by_cases hsource : isSourcePath path = true
          · have hact : (Piece.visit (document :: documents)).act answer s =
                (.ok [.ask document.text path document.uri, .visit documents], s) := by
              simp [Piece.act, hpath, hsource]
            rw [advance_ok hact]
            by_cases huri : document.uri = uri
            · exact hproceeds (.asking (if_pos huri)
                (Record.isLookup_look hagrees.orderly (hdocument huri) false) hlater)
            · have haside : (Piece.ask document.text path document.uri).isAside uri = true := by
                simp [Piece.isAside, huri]
              exact hproceeds (.calm (List.forall_mem_cons.2 ⟨.aside haside, hlater⟩))
          · have hact : (Piece.visit (document :: documents)).act answer s =
                (.ok [.visit documents], s) := by
              simp [Piece.act, hpath, hsource]
            rw [advance_ok hact]
            exact hproceeds (.calm hlater)

/-- The main thread names an interpreter, and is to visit the documents with their newest texts. -/
theorem proceeds_name (hagrees : Agrees uri (s.side uri) r) {interpreter : Datum}
    (hon : interpreter.isOn = true) (hrest : ∀ other ∈ rest, IsCalm uri r false other)
    (answer : Answer) :
    Proceeds uri false s r l (.name interpreter :: rest)
      (advance answer (.name interpreter :: rest, s)).2 r l
      (advance answer (.name interpreter :: rest, s)).1 := by
  have hact : (Piece.name interpreter).act answer s =
      (.ok [.visit s.documents], ({ s with interpreter } : Session).addLog .info
        ("Python interpreter changed: " ++ s.interpreter.shown ++ " -> " ++
          interpreter.shown)) := by
    simp [Piece.act, hon]
  have hvisit : IsCalm uri r false (.visit s.documents) :=
    .visit fun d hd huri => hagrees.text_of_mem hd huri
  have hname : IsCalm uri r false (.name interpreter) := .name hon
  rw [advance_ok hact]
  exact .of_side hagrees rfl hon (.calm (List.forall_mem_cons.2 ⟨hvisit, hrest⟩))
    fun hcovers => absurd hcovers (hname.not_covers l)

/-- A calm thread goes on, and may come to the document on its visits. -/
theorem proceeds_calm (hplain : IsPlainSource uri) (hagrees : Agrees uri (s.side uri) r)
    (hon : s.hasInterpreter = true) {piece : Piece} (hpiece : IsCalm uri r again piece)
    (hrest : ∀ other ∈ rest, IsCalm uri r again other) (answer : Answer) :
    Proceeds uri again s r l (piece :: rest) (advance answer (piece :: rest, s)).2
      (r.note uri again l answer s piece) (r.lookup l piece)
      (advance answer (piece :: rest, s)).1 := by
  cases hpiece with
  | aside hpiece => exact proceeds_aside hplain hagrees hon hpiece hrest answer
  | name hinterpreter => exact proceeds_name hagrees hinterpreter hrest answer
  | visit hdocuments => exact proceeds_visit hagrees hon hdocuments hrest answer

/-- The main thread gives the document a text, and handles the change. -/
theorem proceeds_replacing (hplain : IsPlainSource uri) (hagrees : Agrees uri (s.side uri) r)
    (hon : s.hasInterpreter = true) (event text : String) (answer : Answer) :
    Proceeds uri false s r l [.replace event uri text]
      (advance answer ([.replace event uri text], s)).2
      (r.note uri false l answer s (.replace event uri text)) l
      (advance answer ([.replace event uri text], s)).1 := by
  have hput := Editor.put_of_hasPath uri text s.documents hplain.source.hasPath
  rw [hplain.key] at hput
  have hact : (Piece.replace event uri text).act answer s =
      (.ok [.handle event uri (.ok text)],
        { s with documents := enterDocument uri text s.documents }) := by
    simp [Piece.act, hput]
  have hnote : r.note uri false l answer s (.replace event uri text) =
      { r with given := r.given ++ [text] } := by
    simp [Record.note, hput, hplain.key]
  have hext : r.Extends { r with given := r.given ++ [text] } :=
    ⟨List.prefix_append _ _, List.prefix_rfl⟩
  have hhead : (Piece.handle event uri (.ok text)).isHeading uri = true := by
    simp [Piece.isHeading]
  have hdocuments : (s.side uri).documents.tail = [] := by
    rw [hagrees.documents]
    cases r.given.getLast? <;> rfl
  rw [advance_ok hact, hnote]
  refine ⟨.heading hhead (by simp) (by simp), ?_, hon, hext, by simp, .inl ?_,
    fun _ => .inr (.inr (.inl hhead))⟩
  · rw [side_replaced]
    refine ⟨?_, hagrees.orderly.given text, hagrees.resting, fun task htask => ?_⟩
    · simp [hdocuments]
    · exact (hagrees.queued task htask).extend hagrees.orderly hext rfl rfl rfl
  · rw [side_replaced]
    exact ⟨rfl, rfl, rfl, rfl, rfl⟩

/-- A thread that has found the newest text of the document is to ask for a run of it. -/
theorem asking_newest (hagrees : Agrees uri (s.side uri) r) {text : String}
    (hlast : r.given.getLast? = some text) (hrest : ∀ other ∈ rest, IsCalm uri r again other)
    (path : String) :
    Errand uri again (s.side uri) r r.look (.ask text path uri :: rest) ∧
      Covers uri r r.look (.ask text path uri :: rest) := by
  refine ⟨.asking (if_pos rfl) (Record.isLookup_look hagrees.orderly hlast again) hrest, .inr ?_⟩
  simp [Piece.askedText?, Record.look]

/-- A document that was never given a text is not open, and its reading fails. -/
theorem exists_act_fetch_error (hplain : IsPlainSource uri) (hagrees : Agrees uri (s.side uri) r)
    {source : String} {reading : Except Failure String}
    (hreading : (Piece.fetch source uri reading).hasReading = true → r.given ≠ [])
    (hnone : r.given = []) (answer : Answer) :
    ∃ failure, (Piece.fetch source uri reading).act answer s = (.error failure, s) := by
  have hclosed : s.document? (Editor.key uri) = none := by
    rw [hplain.key, hagrees.document?, hnone]
    rfl
  have hread : s.readText? reading uri = none := by
    rw [readText?_of_closed hclosed]
    cases reading with
    | ok text => exact absurd hnone (hreading rfl)
    | error failure => rfl
  obtain ⟨failure, hfailure⟩ := documentText_of_not_readText hplain.source.hasPath hread
  exact ⟨failure, by simp [Piece.act, hfailure, Except.map]⟩

/-- A document that was given a text is open with the newest one, whatever reading it would give. -/
theorem act_fetch_of_given (hplain : IsPlainSource uri) (hagrees : Agrees uri (s.side uri) r)
    {text : String} (hlast : r.given.getLast? = some text) (source : String)
    (reading : Except Failure String) (answer : Answer) :
    (Piece.fetch source uri reading).act answer s = (.ok [.ask text source uri], s) := by
  have hopen : s.document? (Editor.key uri) = some (Document.mk uri text) := by
    rw [hplain.key, hagrees.document?, hlast]
    rfl
  have hread : s.readText? reading uri = some text := readText?_of_open hopen
  have htext := documentText_of_readText hplain.source.hasPath hread
  simp [Piece.act, htext, Except.map]

/-- A thread looks up the text of the document, and asks for a run of it if it is open. -/
theorem proceeds_heading (hplain : IsPlainSource uri) (hagrees : Agrees uri (s.side uri) r)
    (hon : s.hasInterpreter = true) {piece : Piece} (hpiece : piece.isHeading uri = true)
    (hreading : piece.hasReading = true → r.given ≠ [])
    (hrest : ∀ other ∈ rest, IsCalm uri r again other) (answer : Answer) :
    Proceeds uri again s r l (piece :: rest) (advance answer (piece :: rest, s)).2
      (r.note uri again l answer s piece) (r.lookup l piece)
      (advance answer (piece :: rest, s)).1 := by
  obtain ⟨path, hpath, hsource⟩ := hplain.source
  cases piece
  case handle event other reading =>
    obtain rfl : other = uri := by simpa [Piece.isHeading] using hpiece
    have hact : (Piece.handle event other reading).act answer s = (.ok [.fetch path other reading],
        s.addLog .debug ("[Event: " ++ event ++ "] Running explorer: " ++ other)) := by
      simp [Piece.act, hpath, hsource]
    rw [advance_ok hact]
    exact .of_side hagrees rfl hon (.heading hpiece hreading hrest) fun _ => .inl (.inl hpiece)
  case fetch source other reading =>
    obtain rfl : other = uri := by simpa [Piece.isHeading] using hpiece
    cases hlast : r.given.getLast? with
    | none =>
        have hnone := List.getLast?_eq_none_iff.1 hlast
        obtain ⟨failure, hact⟩ := exists_act_fetch_error hplain hagrees hreading hnone answer
        rw [advance_error hact]
        exact .of_side hagrees rfl hon (.calm (isCalm_dropWhile hrest)) fun _ => .inr hnone
    | some text =>
        obtain ⟨herrand, hcovers⟩ := asking_newest hagrees hlast hrest source
        rw [advance_ok (act_fetch_of_given hplain hagrees hlast source reading answer)]
        exact .of_side hagrees rfl hon herrand fun _ => .inl hcovers
  case reread other =>
    obtain rfl : other = uri := by simpa [Piece.isHeading] using hpiece
    cases hlast : r.given.getLast? with
    | none =>
        have htext : s.latestText? other = none := by
          rw [latestText?, hagrees.document?, hlast]
          rfl
        have hact : (Piece.reread other).act answer s = (.ok [], s) := by
          simp [Piece.act, htext]
        rw [advance_ok hact]
        exact .of_side hagrees rfl hon (.calm hrest)
          fun _ => .inr (List.getLast?_eq_none_iff.1 hlast)
    | some text =>
        have htext : s.latestText? other = some text := by
          rw [latestText?, hagrees.document?, hlast]
          rfl
        have hact : (Piece.reread other).act answer s = (.ok [.ask text path other],
            s.addLog .debug ("Exploring queued edits for " ++ other)) := by
          simp [Piece.act, htext, hpath]
        obtain ⟨herrand, hcovers⟩ := asking_newest hagrees hlast hrest path
        rw [advance_ok hact]
        exact .of_side hagrees rfl hon herrand fun _ => .inl hcovers
  all_goals exact absurd hpiece Bool.false_ne_true

/-- A thread that asks for a run finds an interpreter. -/
theorem proceeds_ask (hagrees : Agrees uri (s.side uri) r) (hon : s.hasInterpreter = true)
    {text : String} (path : String) (hlookup : r.IsLookup again l text)
    (hrest : ∀ other ∈ rest, IsCalm uri r again other) (answer : Answer) :
    Proceeds uri again s r l (.ask text path uri :: rest)
      (advance answer (.ask text path uri :: rest, s)).2 r l
      (advance answer (.ask text path uri :: rest, s)).1 := by
  have hact : (Piece.ask text path uri).act answer s = (.ok [.claim text path uri], s) :=
    if_pos hon
  rw [advance_ok hact]
  refine .of_side hagrees rfl hon (.asking (if_pos rfl) hlookup hrest) fun hcovers => .inl ?_
  simpa [Covers, Piece.isHeading, Piece.askedText?] using hcovers

/-- Under the lock the document is marked, or it is given a run of the text that was looked up. -/
theorem proceeds_claim (hagrees : Agrees uri (s.side uri) r) (hon : s.hasInterpreter = true)
    (hqueue : s.isRunning uri = false → (s.side uri).queued = [])
    {text : String} (path : String) (hlookup : r.IsLookup again l text)
    (hrest : ∀ other ∈ rest, IsCalm uri r again other) (answer : Answer) :
    Proceeds uri again s r l (.claim text path uri :: rest)
      (advance answer (.claim text path uri :: rest, s)).2
      (r.note uri again l answer s (.claim text path uri)) l
      (advance answer (.claim text path uri :: rest, s)).1 := by
  cases hrunning : s.isRunning uri with
  | true =>
      have hact : (Piece.claim text path uri).act answer s = (.ok [], (mark uri s).2) :=
        if_pos hrunning
      have hnote : r.note uri again l answer s (.claim text path uri) = r := by
        simp [Record.note, hrunning]
      have hside : (mark uri s).2.side uri = { s.side uri with pending := true } :=
        side_marked_self uri s
      have hpending : (mark uri s).2.isPending uri = true := congrArg Side.pending hside
      rw [advance_ok hact, hnote]
      refine ⟨.calm hrest, ?_, hon, .refl r, fun _ => rfl, .inl ?_, fun _ => .inr (.inl hpending)⟩
      · rw [hside]
        exact ⟨hagrees.documents, hagrees.orderly, hagrees.resting, hagrees.queued⟩
      · rw [hside]
        exact ⟨rfl, rfl, rfl, rfl, rfl⟩
  | false =>
      obtain ⟨⟨hsynced, hlength⟩, hkept⟩ := hagrees.resting hrunning
      have hact : (Piece.claim text path uri).act answer s =
          (.ok [.equip text path uri], { s with running := s.running.set uri true }) :=
        if_neg (by simp [hrunning])
      have hnote : r.note uri again l answer s (.claim text path uri) =
          { r with claims := r.claims ++ [{ l with again }] } := by
        simp [Record.note, hrunning]
      let r' : Record := { r with claims := r.claims ++ [{ l with again }] }
      have hext : r.Extends r' := ⟨List.prefix_rfl, List.prefix_append _ _⟩
      have hprepared : r'.IsPrepared text :=
        ⟨hsynced, r.claims, { l with again }, rfl, hlength, hlookup.text⟩
      rw [advance_ok hact, hnote]
      refine ⟨.preparing (if_pos rfl) hprepared ?_, ?_, hon, hext, fun _ => rfl,
        .inr (.inl hrunning), ?_⟩
      · exact fun other hother => (hrest other hother).extend fun _ => rfl
      · rw [side_running_self]
        refine ⟨hagrees.documents, hagrees.orderly.claimed hlookup, by simp, ?_⟩
        simp [hqueue hrunning]
      · -- If the text was the newest one, its run has been given; otherwise the promise stands.
        intro hbefore
        rcases hbefore rfl with (hnone | ⟨claim, hclaim, hnewest⟩) | hmarked | hcovers
        · exact .inl (.inl hnone)
        · exact .inl (.inr ⟨claim, List.mem_append_left _ hclaim, hnewest⟩)
        · exact .inr (.inl hmarked)
        · have hnewest : l.version = r.given.length := by
            simpa [Covers, Piece.isHeading, Piece.askedText?] using hcovers
          exact .inl (.inr ⟨_, List.mem_append_right _ (List.mem_singleton.2 rfl), hnewest⟩)

/-- A thread prepares the run that the document was given, and puts it into the queue. -/
theorem proceeds_preparing (hagrees : Agrees uri (s.side uri) r) (hon : s.hasInterpreter = true)
    {piece : Piece} {text : String} (hpiece : piece.preparedText? uri = some text)
    (hprepared : r.IsPrepared text) (hrest : ∀ other ∈ rest, IsCalm uri r again other)
    (answer : Answer) :
    Proceeds uri again s r l (piece :: rest) (advance answer (piece :: rest, s)).2
      (r.note uri again l answer s piece) (r.lookup l piece)
      (advance answer (piece :: rest, s)).1 := by
  cases piece
  case equip text' path other =>
    obtain ⟨rfl, rfl⟩ : other = uri ∧ text' = text := by simpa [Piece.preparedText?] using hpiece
    exact .of_side hagrees rfl hon (.preparing (if_pos rfl) hprepared hrest)
      fun hcovers => absurd hcovers (not_covers rfl rfl)
  case aim text' path other interpreter =>
    obtain ⟨rfl, rfl⟩ : other = uri ∧ text' = text := by simpa [Piece.preparedText?] using hpiece
    exact .of_side hagrees rfl hon (.preparing (if_pos rfl) hprepared hrest)
      fun hcovers => absurd hcovers (not_covers rfl rfl)
  case put task =>
    obtain ⟨huri, rfl⟩ : task.uri = uri ∧ task.invocation.text = text := by
      simpa [Piece.preparedText?] using hpiece
    have hact : (Piece.put task).act answer s = (.ok [], { s with queue := s.queue ++ [task] }) :=
      rfl
    rw [advance_ok hact]
    refine ⟨.calm hrest, ?_, hon, .refl r, fun _ => rfl, .inl ?_,
      fun hbefore => (hbefore rfl).of_not_covers (not_covers rfl rfl) rfl rfl rfl⟩
    · rw [side_put_self huri]
      refine ⟨hagrees.documents, hagrees.orderly, hagrees.resting, fun other hother => ?_⟩
      rcases List.mem_append.1 hother with hother | hother
      · exact hagrees.queued other hother
      · obtain rfl := List.mem_singleton.1 hother
        exact hprepared
    · rw [side_put_self huri]
      exact ⟨rfl, rfl, rfl, rfl, rfl⟩
  all_goals exact absurd hpiece (by simp [Piece.preparedText?])

/-- A process of the document comes to its end, and the result is to be kept. -/
theorem proceeds_exploring (hagrees : Agrees uri (s.side uri) r) (hon : s.hasInterpreter = true)
    (hrunning : s.isRunning uri = true) (hqueue : (s.side uri).queued = []) {task : Task}
    (huri : task.uri = uri) (hgoing : r.IsGoing task) (hordinary : IsOrdinaryResult answer.result) :
    Proceeds uri again s r l [.explore task, .release uri]
      (advance answer ([.explore task, .release uri], s)).2
      (r.note uri again l answer s (.explore task)) l
      (advance answer ([.explore task, .release uri], s)).1 := by
  subst huri
  let e : Ended := { task, result := answer.result }
  let r' : Record := { r with ended := r.ended ++ [e] }
  have hnote : r.note task.uri again l answer s (.explore task) = r' := if_pos rfl
  have hdone : r'.IsDone := by
    obtain ⟨hstarted, hlength⟩ := hgoing
    exact ⟨by rw [hstarted, List.map_append]; rfl, hlength⟩
  have hlast : r'.ended.getLast? = some e := List.getLast?_concat
  obtain ⟨quiet, t, houtcome, hcore, hquiet⟩ := exists_outcome_eq hordinary task.uri s
  have hact : (Piece.explore task).act answer s =
      (.ok (.keep task.uri (resultBlocks e.result) (resultDiagnostics e.result) :: quiet), t) :=
    houtcome
  have hside : t.side task.uri = s.side task.uri := side_of_core hcore task.uri
  have hinterpreter : t.core.interpreter = s.core.interpreter := by
    rw [hcore]
  rw [advance_ok hact, hnote]
  refine ⟨.storing hdone hlast hquiet, ?_, (congrArg Datum.isOn hinterpreter).trans hon,
    ⟨List.prefix_rfl, List.prefix_rfl⟩, fun _ => rfl, .inr (.inr (held_pos_of_release [_])),
    fun hbefore =>
      (hbefore rfl).of_not_covers (not_covers rfl rfl) rfl rfl (congrArg Side.pending hside)⟩
  rw [hside]
  refine ⟨hagrees.documents, hagrees.orderly.ended e, ?_, by simp [hqueue]⟩
  exact fun hnone => absurd (hrunning.symm.trans hnone) (by simp)

/-- The result of the last run is kept. -/
theorem proceeds_storing (hagrees : Agrees uri (s.side uri) r) (hon : s.hasInterpreter = true)
    (hrunning : s.isRunning uri = true) {e : Ended} {quiet : List Piece} (hdone : r.IsDone)
    (hlast : r.ended.getLast? = some e) (hquiet : ∀ piece ∈ quiet, piece.isQuiet = true) :
    Proceeds uri again s r l
      (.keep uri (resultBlocks e.result) (resultDiagnostics e.result) :: (quiet ++ [.release uri]))
      (s.store uri (resultBlocks e.result) (resultDiagnostics e.result)) r l
      (quiet ++ [.release uri]) := by
  have hside := side_store_self uri (resultBlocks e.result) (resultDiagnostics e.result) s
  have hkept : IsKept ((s.store uri (resultBlocks e.result) (resultDiagnostics e.result)).side uri)
      r := by
    intro other hother
    obtain rfl : e = other := Option.some.inj (hlast.symm.trans hother)
    rw [hside]
    exact ⟨rfl, rfl⟩
  refine ⟨.settled hdone hkept hquiet, ?_, hon, .refl r, fun _ => rfl,
    .inr (.inr (held_pos_of_release (_ :: quiet))),
    fun hbefore => (hbefore rfl).of_not_covers (not_covers rfl rfl) rfl rfl rfl⟩
  rw [hside]
  exact ⟨hagrees.documents, hagrees.orderly,
    fun hnone => absurd (hrunning.symm.trans hnone) (by simp), hagrees.queued⟩

theorem Piece.isAside_of_isQuiet {piece : Piece} (h : piece.isQuiet = true) :
    piece.isAside uri = true := by
  cases piece <;> first | rfl | cases h

/-- The document is released, and a worker is to look up its text again if it was marked. -/
theorem proceeds_release (hagrees : Agrees uri (s.side uri) r) (hon : s.hasInterpreter = true)
    (hqueue : (s.side uri).queued = []) (hdone : r.IsDone) (hkept : IsKept (s.side uri) r)
    (answer : Answer) :
    Proceeds uri again s r l [.release uri] (advance answer ([.release uri], s)).2 r l
      (advance answer ([.release uri], s)).1 := by
  have hact : (Piece.release uri).act answer s =
      (.ok (if s.isPending uri then [.reread uri] else []), s.release uri) := rfl
  have hside := side_release_self uri s
  have hagrees' : Agrees uri ((s.release uri).side uri) r := by
    rw [hside]
    exact ⟨hagrees.documents, hagrees.orderly, fun _ => ⟨hdone, hkept⟩, by simp [hqueue]⟩
  have hsame : SameRun (s.side uri) r ((s.release uri).side uri) r := by
    rw [hside]
    exact ⟨rfl, rfl, rfl, rfl, rfl⟩
  have hhead : (Piece.reread uri).isHeading uri = true := by simp [Piece.isHeading]
  rw [advance_ok hact, List.append_nil]
  cases hmarked : s.isPending uri with
  | true =>
      rw [if_pos rfl]
      exact ⟨.heading hhead (by simp [Piece.hasReading]) (by simp), hagrees', hon, .refl r,
        fun _ => rfl, .inl hsame,
        fun _ => .inr (.inr (.inl hhead))⟩
  | false =>
      rw [if_neg Bool.false_ne_true]
      have hpending : (s.release uri).isPending uri = s.isPending uri :=
        (congrArg Side.pending hside).trans hmarked.symm
      exact ⟨.calm (by simp), hagrees', hon, .refl r, fun _ => rfl, .inl hsame,
        fun hbefore => (hbefore rfl).of_not_covers (not_covers rfl rfl) rfl rfl hpending⟩

/-- Whether a quiet piece fails or not, quiet pieces are left in front of the release. -/
theorem exists_advance_quiet {piece : Piece} {quiet : List Piece} (hpiece : piece.isQuiet = true)
    (hquiet : ∀ other ∈ quiet, other.isQuiet = true) (answer : Answer) (uri : String)
    (s : Session) :
    ∃ later, (advance answer (piece :: (quiet ++ [.release uri]), s)).1 = later ++ [.release uri] ∧
      ∀ other ∈ later, other.isQuiet = true := by
  have hmore := Piece.act_isQuiet hpiece answer s
  rcases hact : piece.act answer s with ⟨result, t⟩
  rw [hact] at hmore
  cases result with
  | ok more =>
      refine ⟨more ++ quiet, by rw [advance_ok hact, List.append_assoc], fun other hother => ?_⟩
      rcases List.mem_append.1 hother with hother | hother
      · exact List.all_eq_true.1 hmore other hother
      · exact hquiet other hother
  | error failure =>
      refine ⟨[], ?_, by simp⟩
      rw [advance_error hact]
      refine (List.dropWhile_append_of_pos fun other hother => ?_).trans rfl
      rw [Piece.isRelease_of_isQuiet (hquiet other hother)]
      rfl

/-- A worker that has kept the result goes on to the release. -/
theorem proceeds_settled (hplain : IsPlainSource uri) (hagrees : Agrees uri (s.side uri) r)
    (hon : s.hasInterpreter = true) (hqueue : (s.side uri).queued = []) {quiet : List Piece}
    (hdone : r.IsDone) (hkept : IsKept (s.side uri) r)
    (hquiet : ∀ piece ∈ quiet, piece.isQuiet = true) (answer : Answer) :
    Proceeds uri again s r l (quiet ++ [.release uri])
      (advance answer (quiet ++ [.release uri], s)).2
      (r.noted uri again l answer s (quiet ++ [.release uri]))
      (r.looked l (quiet ++ [.release uri]))
      (advance answer (quiet ++ [.release uri], s)).1 := by
  cases quiet with
  | nil => exact proceeds_release hagrees hon hqueue hdone hkept answer
  | cons piece quiet =>
      obtain ⟨hpiece, hquiet⟩ := List.forall_mem_cons.1 hquiet
      have haside : piece.isAside uri = true := Piece.isAside_of_isQuiet hpiece
      have hacts := Piece.act_isAside hplain.key haside answer s
      have hcalm : IsCalm uri r again piece := .aside haside
      have hnoted : r.noted uri again l answer s (piece :: (quiet ++ [.release uri])) = r :=
        Record.note_of_isAside haside again l answer s r
      obtain ⟨later, hlater, hquiet⟩ := exists_advance_quiet hpiece hquiet answer uri s
      rw [List.cons_append, hnoted, hlater]
      exact .of_side hagrees hacts.side ((congrArg Datum.isOn hacts.interpreter).trans hon)
        (.settled hdone hkept hquiet) fun hcovers => absurd hcovers (hcalm.not_covers l)

/-- **A thread goes on with its errand** when it does its first piece. -/
theorem Errand.proceeds (h : Errand uri again (s.side uri) r l pieces) (hplain : IsPlainSource uri)
    (hagrees : Agrees uri (s.side uri) r) (hon : s.hasInterpreter = true) {going : Nat}
    (hbalanced : Balanced uri (going + held uri pieces) s)
    (hordinary : again = true → IsOrdinaryResult answer.result) :
    Proceeds uri again s r l pieces (advance answer (pieces, s)).2
      (r.noted uri again l answer s pieces) (r.looked l pieces)
      (advance answer (pieces, s)).1 := by
  cases h with
  | calm hcalm =>
      cases pieces with
      | nil => exact .of_side hagrees rfl hon (.calm hcalm) fun hcovers => .inl hcovers
      | cons piece rest =>
          obtain ⟨hpiece, hrest⟩ := List.forall_mem_cons.1 hcalm
          exact proceeds_calm hplain hagrees hon hpiece hrest answer
  | replacing hmain =>
      subst hmain
      exact proceeds_replacing hplain hagrees hon _ _ answer
  | heading hpiece hreading hrest =>
      exact proceeds_heading hplain hagrees hon hpiece hreading hrest answer
  | asking hpiece hlookup hrest =>
      rename_i text piece rest
      cases piece
      case ask text' path other =>
        obtain ⟨rfl, rfl⟩ : other = uri ∧ text' = text := by simpa [Piece.askedText?] using hpiece
        exact proceeds_ask hagrees hon path hlookup hrest answer
      case claim text' path other =>
        obtain ⟨rfl, rfl⟩ : other = uri ∧ text' = text := by simpa [Piece.askedText?] using hpiece
        exact proceeds_claim hagrees hon hbalanced.queued_of_not_running path hlookup hrest answer
      all_goals exact absurd hpiece (by simp [Piece.askedText?])
  | preparing hpiece hprepared hrest =>
      exact proceeds_preparing hagrees hon hpiece hprepared hrest answer
  | starting hworker huri hgoing =>
      exact .of_side hagrees rfl hon (.exploring hworker huri hgoing)
        fun hcovers => absurd hcovers (not_covers rfl rfl)
  | exploring hworker huri hgoing =>
      obtain ⟨hrunning, hqueue⟩ := hbalanced.of_held (held_pos_of_release [_])
      exact proceeds_exploring hagrees hon hrunning hqueue huri hgoing (hordinary hworker)
  | storing hdone hlast hquiet =>
      obtain ⟨hrunning, -⟩ := hbalanced.of_held (held_pos_of_release (_ :: _))
      exact proceeds_storing hagrees hon hrunning hdone hlast hquiet
  | settled hdone hkept hquiet =>
      obtain ⟨-, hqueue⟩ := hbalanced.of_held (held_pos_of_release _)
      exact proceeds_settled hplain hagrees hon hqueue hdone hkept hquiet answer

/-- Together with the other threads, a thread keeps the promise of a run of the newest text: whoever
covered the document still does so, unless a text was given. -/
theorem Proceeds.keeps_promise {r' : Record} {pieces' : List Piece}
    (h : Proceeds uri again s r l pieces s' r' l' pieces') {before after : Prop}
    (hothers : r'.given = r.given → before → after)
    (hpromised : r.HasNewest ∨ s.isPending uri = true ∨ Covers uri r l pieces ∨ before) :
    r'.HasNewest ∨ s'.isPending uri = true ∨ Covers uri r' l' pieces' ∨ after := by
  have hown : (r'.given = r.given → IsPromised uri s r l pieces) →
      r'.HasNewest ∨ s'.isPending uri = true ∨ Covers uri r' l' pieces' ∨ after :=
    fun hbefore => (h.promised hbefore).imp_right (Or.imp_right .inl)
  by_cases hgiven : r'.given = r.given
  · rcases hpromised with hnewest | hpending | hcovers | hbefore
    · exact hown fun _ => .inl hnewest
    · exact hown fun _ => .inr (.inl hpending)
    · exact hown fun _ => .inr (.inr hcovers)
    · exact .inr (.inr (.inr (hothers hgiven hbefore)))
  · exact hown fun heq => absurd heq hgiven

end Proceed

end JitExplorer.Session
