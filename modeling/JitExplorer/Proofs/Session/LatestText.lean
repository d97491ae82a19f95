/-
**The latest text of a document is on its way.**

While a document is open and an interpreter is configured, its latest text is on its way in every
history: the document is marked, or a run of its latest text is under way, or that run was the last
one to end and its result is kept.  An event keeps this if it does not mix up documents, and so does
the end of a run.

Main definitions:

* `Session.IsSource` — the URI of a document leads to a source;
* `Session.Untouched` — two sessions agree on a document;
* `Session.Promised` — a document is marked, or a run of a text waits in the queue;
* `Session.Effect` — what an event can do to a source;
* `Session.History.IsLatest` — the latest text of a document is on its way.

Main results:

* `Session.Event.next_effect` — no event does anything else;
* `Session.spread_promised` — an interpreter promises a run to all open sources;
* `Session.History.IsLatest.next` — every step keeps the latest text on its way.
-/

import JitExplorer.Proofs.Session.History

set_option autoImplicit false

namespace JitExplorer.Session

/-! ### Sources -/

/-- The URI of a document leads to a source. -/
def IsSource (uri : String) : Prop :=
  ∃ path, Uri.filePath uri = .ok path ∧ isSourcePath path = true

theorem IsSource.hasPath {uri : String} (h : IsSource uri) : HasPath uri := by
  obtain ⟨path, hpath, -⟩ := h
  exact ⟨path, hpath⟩

/-- A text is put in exactly if the URI leads to a path. -/
theorem replaced_of_hasPath [Editor] {uri : String} (h : HasPath uri) (text : String)
    (s : Session) :
    s.replaced uri text =
      handled (.ok text) uri
        { s with documents := enterDocument (Editor.key uri) text s.documents } := by
  simp only [replaced, Editor.put_of_hasPath uri text s.documents h]

theorem replaced_of_not_hasPath [Editor] {uri : String} (h : ¬ HasPath uri) (text : String)
    (s : Session) : s.replaced uri text = s := by
  obtain ⟨failure, hfailure⟩ := Editor.put_of_not_hasPath uri text s.documents h
  simp only [replaced, hfailure]

/-- What holds of a session holds after a text was given for a document, if it holds of a session in
which the document was run with it. -/
theorem replaced_cases [Editor] {P : Session → Prop} {uri text : String} {s : Session} (hs : P s)
    (h : HasPath uri → P (handled (.ok text) uri
      { s with documents := enterDocument (Editor.key uri) text s.documents })) :
    P (s.replaced uri text) := by
  by_cases hpath : HasPath uri
  · rw [replaced_of_hasPath hpath]
    exact h hpath
  · rw [replaced_of_not_hasPath hpath]
    exact hs

/-! ### Documents by their URI -/

theorem find?_enterDocument_other {key uri : String} (h : key ≠ uri) (text : String)
    (documents : List Document) :
    (enterDocument key text documents).find? (fun d => d.uri == uri) =
      documents.find? fun d => d.uri == uri := by
  induction documents with
  | nil => simp [enterDocument, h]
  | cons document documents ih =>
      unfold enterDocument
      split
      · rename_i hkey
        simp [hkey, h]
      · simp [List.find?_cons, ih]

theorem find?_filter_self (key : String) (documents : List Document) :
    (documents.filter fun d => d.uri != key).find? (fun d => d.uri == key) = none := by
  simp

theorem find?_filter_other {key uri : String} (h : key ≠ uri) (documents : List Document) :
    (documents.filter fun d => d.uri != key).find? (fun d => d.uri == uri) =
      documents.find? fun d => d.uri == uri := by
  induction documents with
  | nil => rfl
  | cons document documents ih =>
      by_cases hkey : document.uri = key
      · simp [hkey, h, ih]
      · simp [hkey, List.find?_cons, ih]

/-! ### What a run that is asked for leaves alone -/

section Submitted

variable (text path uri : String) (s : Session)

@[simp] theorem submitted_interpreter : (s.submitted text path uri).interpreter = s.interpreter :=
  submitted_cases (P := fun t => t.interpreter = s.interpreter) (fun _ => rfl) (fun _ => rfl) rfl

@[simp] theorem submitted_stage : (s.submitted text path uri).stage = s.stage :=
  submitted_cases (P := fun t => t.stage = s.stage) (fun _ => rfl) (fun _ => rfl) rfl

@[simp] theorem submitted_documents : (s.submitted text path uri).documents = s.documents :=
  submitted_cases (P := fun t => t.documents = s.documents) (fun _ => rfl) (fun _ => rfl) rfl

end Submitted

/-- Two sessions agree on a document. -/
structure Untouched (uri : String) (s t : Session) : Prop where
  interpreter : t.interpreter = s.interpreter
  stage : t.stage = s.stage
  document : t.document? uri = s.document? uri
  running : t.isRunning uri = s.isRunning uri
  pending : t.isPending uri = s.isPending uri
  queued : t.queued uri = s.queued uri
  blocks : t.blocks.get? uri = s.blocks.get? uri
  diagnostics : t.diagnostics.get? uri = s.diagnostics.get? uri

section Untouched

variable {uri other : String} {s t : Session}

theorem Untouched.refl (uri : String) (s : Session) : Untouched uri s s :=
  ⟨rfl, rfl, rfl, rfl, rfl, rfl, rfl, rfl⟩

theorem Untouched.trans {r : Session} (h : Untouched uri r s) (h' : Untouched uri s t) :
    Untouched uri r t :=
  ⟨h'.interpreter.trans h.interpreter, h'.stage.trans h.stage, h'.document.trans h.document,
    h'.running.trans h.running, h'.pending.trans h.pending, h'.queued.trans h.queued,
    h'.blocks.trans h.blocks, h'.diagnostics.trans h.diagnostics⟩

theorem untouched_store (hne : other ≠ uri) (blocks : List Block)
    (diagnostics : List Diagnostic) (s : Session) :
    Untouched uri s (s.store other blocks diagnostics) :=
  ⟨rfl, rfl, rfl, rfl, rfl, rfl, Table.get?_set_of_ne _ _ hne, Table.get?_set_of_ne _ _ hne⟩

theorem untouched_submitted (hne : other ≠ uri) (text path : String) (s : Session) :
    Untouched uri s (s.submitted text path other) := by
  refine submitted_cases ?_ ?_ (untouched_store hne [] [] s)
  · intro _
    refine ⟨rfl, rfl, rfl, rfl, ?_, rfl, rfl, rfl⟩
    exact (isPending_marked uri other s).trans (if_neg hne)
  · intro _
    refine ⟨rfl, rfl, rfl, ?_, rfl, ?_, rfl, rfl⟩
    · exact (isRunning_enqueued uri other _ s).trans (if_neg hne)
    · rw [queued_enqueued, if_neg hne, List.append_nil]

theorem untouched_release (hne : other ≠ uri) (s : Session) :
    Untouched uri s (s.release other) := by
  refine ⟨rfl, rfl, rfl, ?_, ?_, rfl, rfl, rfl⟩
  · exact (isRunning_release uri other s).trans (if_neg hne)
  · exact (isPending_release uri other s).trans (if_neg hne)

/-- Asking for runs of another document keeps the agreement on a document. -/
theorem Untouched.submitted (h : Untouched uri s t) (hne : other ≠ uri) (text path : String) :
    Untouched uri s (t.submitted text path other) :=
  h.trans (untouched_submitted hne text path t)

/-- The end of a run of another document does not touch a document. -/
theorem untouched_concluded (hne : other ≠ uri) (result : Except Invocation.Fault (List Block))
    (s : Session) : Untouched uri s (s.concluded other result) := by
  have hstored := untouched_store hne (resultBlocks result) (resultDiagnostics result) s
  exact concluded_keeps (fun text path t ht => ht.submitted hne text path)
    (hstored.trans (untouched_release hne _))

/-- Another document that changed does not touch a document. -/
theorem untouched_replaced [Editor] (hne : other ≠ uri) (hkey : Editor.key other ≠ uri)
    (text : String) (s : Session) : Untouched uri s (s.replaced other text) := by
  refine replaced_cases (Untouched.refl uri s) fun _ => ?_
  refine handled_keeps (fun text path t ht => ht.submitted hne text path) ?_
  exact ⟨rfl, rfl, find?_enterDocument_other hkey text s.documents, rfl, rfl, rfl, rfl, rfl⟩

theorem untouched_handled [Editor] (hne : other ≠ uri) (reading : Except Failure String)
    (s : Session) : Untouched uri s (s.handled reading other) :=
  handled_keeps (fun text path _ ht => ht.submitted hne text path) (Untouched.refl uri s)

theorem untouched_closed [Editor] (hne : other ≠ uri) (hkey : Editor.key other ≠ uri)
    (s : Session) :
    Untouched uri s (s.closed other) := by
  refine ⟨rfl, rfl, find?_filter_other hkey s.documents, rfl, ?_, rfl, ?_, ?_⟩
  · exact (isPending_closed uri other s).trans (if_neg hne)
  · exact Table.get?_erase_of_ne _ hne
  · exact Table.get?_erase_of_ne _ hne

end Untouched

/-! ### Promises -/

/-- A document is marked, or a run of a text waits in the queue. -/
def Promised (uri path text : String) (s : Session) : Prop :=
  s.isPending uri = true ∨ { uri, invocation := s.invocation text path } ∈ s.queued uri

section Promised

variable {uri path text : String} {s t : Session}

theorem invocation_eq (hinterpreter : t.interpreter = s.interpreter) (hstage : t.stage = s.stage)
    (text path : String) : t.invocation text path = s.invocation text path := by
  simp only [invocation, hinterpreter, hstage]

@[simp] theorem submitted_invocation (text' path' other : String) (s : Session) :
    (s.submitted text' path' other).invocation text path = s.invocation text path :=
  invocation_eq (by simp) (by simp) text path

/-- Who asks for a run is promised one, if there is an interpreter. -/
theorem promised_submitted (hon : s.hasInterpreter = true) :
    Promised uri path text (s.submitted text path uri) := by
  rw [Promised, submitted_invocation]
  unfold submitted
  rw [if_pos hon]
  split
  · left
    exact (isPending_marked uri uri s).trans (if_pos rfl)
  · right
    rw [queued_enqueued, if_pos rfl]
    simp

/-- A promise is kept when other runs are asked for. -/
theorem Promised.submitted (h : Promised uri path text s) (text' path' other : String) :
    Promised uri path text (s.submitted text' path' other) := by
  rw [Promised, submitted_invocation]
  refine submitted_cases (P := fun t => t.isPending uri = true ∨ _ ∈ t.queued uri) ?_ ?_ h
  · intro _
    refine h.imp ?_ id
    intro hpending
    rw [isPending_marked, hpending, ite_self]
  · intro _
    refine h.imp id ?_
    intro hqueued
    rw [queued_enqueued]
    exact List.mem_append_left _ hqueued

end Promised

/-! ### The interpreter -/

@[simp] theorem spread_documents (documents : List Document) (s : Session) :
    (s.spread documents).documents = s.documents :=
  spread_keeps (P := fun t => t.documents = s.documents)
    (fun d _ text path t ht => (submitted_documents text path d.uri t).trans ht) rfl

@[simp] theorem spread_interpreter (documents : List Document) (s : Session) :
    (s.spread documents).interpreter = s.interpreter :=
  spread_keeps (P := fun t => t.interpreter = s.interpreter)
    (fun d _ text path t ht => (submitted_interpreter text path d.uri t).trans ht) rfl

/-- When all sources among some documents are run, each of them is: what asking for its run brings
about holds afterwards, if asking for runs keeps it. -/
theorem spread_reaches {P Q : Session → Prop} {documents : List Document} {document : Document}
    {path : String} (hmem : document ∈ documents)
    (hfirst : documents.find? (fun d => d.uri == document.uri) = some document)
    (hlocated : ∀ d ∈ documents, HasPath d.uri)
    (hpath : Uri.filePath document.uri = .ok path) (hsource : isSourcePath path = true)
    (hQ : ∀ text path uri s, Q s → Q (s.submitted text path uri))
    (hP : ∀ text path uri s, P s → P (s.submitted text path uri))
    (hself : ∀ s, Q s → P (s.submitted document.text path document.uri)) {s : Session} (hs : Q s) :
    P (s.spread documents) := by
  induction documents generalizing s with
  | nil => exact absurd hmem List.not_mem_nil
  | cons first documents ih =>
      obtain ⟨place, hplace⟩ := hlocated first List.mem_cons_self
      simp only [spread, hplace]
      by_cases huri : first.uri = document.uri
      · -- Under one URI stands one document, so the run asked for here is the right one.
        have heq : first = document := by simpa [huri] using hfirst
        subst heq
        obtain rfl : path = place := by simpa [hpath] using hplace
        rw [if_pos hsource]
        exact spread_keeps (fun d _ text path t ht => hP text path d.uri t ht) (hself s hs)
      · have hne : first ≠ document := fun heq => huri (congrArg Document.uri heq)
        refine ih ((List.mem_cons.1 hmem).resolve_left (Ne.symm hne)) ?_ ?_ ?_
        · simpa [huri] using hfirst
        · exact fun d hd => hlocated d (List.mem_cons_of_mem first hd)
        · split
          · exact hQ _ _ _ s hs
          · exact hs

/-- The interpreter promises a run to all open sources. -/
theorem spread_promised {uri path : String} {document : Document} {s : Session}
    (hdocument : s.document? uri = some document) (hlocated : ∀ d ∈ s.documents, HasPath d.uri)
    (hpath : Uri.filePath uri = .ok path) (hsource : isSourcePath path = true)
    (hon : s.hasInterpreter = true) :
    Promised uri path document.text (s.spread s.documents) := by
  obtain rfl : document.uri = uri := by simpa using List.find?_some hdocument
  refine spread_reaches (Q := fun t => t.hasInterpreter = true)
    (List.mem_of_find?_eq_some hdocument) hdocument hlocated hpath hsource ?_ ?_ ?_ hon
  · intro text path uri t ht
    simpa [hasInterpreter] using ht
  · exact fun text path uri t ht => ht.submitted text path uri
  · exact fun t ht => promised_submitted ht

/-! ### A document that changed -/

section Changed

variable [Editor]

@[simp] theorem handled_documents (reading : Except Failure String) (uri : String) (s : Session) :
    (s.handled reading uri).documents = s.documents :=
  handled_keeps (P := fun t => t.documents = s.documents)
    (fun text path t ht => (submitted_documents text path uri t).trans ht) rfl

@[simp] theorem handled_interpreter (reading : Except Failure String) (uri : String)
    (s : Session) : (s.handled reading uri).interpreter = s.interpreter :=
  handled_keeps (P := fun t => t.interpreter = s.interpreter)
    (fun text path t ht => (submitted_interpreter text path uri t).trans ht) rfl

/-- An open source that changed in some way is run with its text. -/
theorem handled_of_open {uri path : String} {document : Document} {s : Session}
    {reading : Except Failure String} (hpath : Uri.filePath uri = .ok path)
    (hsource : isSourcePath path = true)
    (hdocument : s.document? (Editor.key uri) = some document) :
    s.handled reading uri = s.submitted document.text path uri := by
  simp only [handled, hpath, hsource, if_true, readText?_of_open hdocument]

/-- A source that is not open is run with what its reading gives, if it gives a text. -/
theorem handled_of_closed {uri path : String} {s : Session} {reading : Except Failure String}
    (hpath : Uri.filePath uri = .ok path) (hsource : isSourcePath path = true)
    (hclosed : s.document? (Editor.key uri) = none) :
    s.handled reading uri =
      match reading with
      | .ok text => s.submitted text path uri
      | .error _ => s := by
  simp only [handled, hpath, hsource, if_true, readText?_of_closed hclosed]
  cases reading with
  | ok text => rfl
  | error failure => rfl

/-- A source whose text is given is run with it. -/
theorem replaced_of_source {uri path : String} (hpath : Uri.filePath uri = .ok path)
    (hsource : isSourcePath path = true) (text : String) (s : Session) :
    s.replaced uri text =
      submitted text path uri
        { s with documents := enterDocument (Editor.key uri) text s.documents } := by
  have hopen : document? { s with documents := enterDocument (Editor.key uri) text s.documents }
      (Editor.key uri) = some { uri := Editor.key uri, text } :=
    find?_enterDocument_self (Editor.key uri) text s.documents
  rw [replaced_of_hasPath ⟨path, hpath⟩, handled_of_open hpath hsource hopen]

/-- What an event can do to a source that is known by its own URI. -/
inductive Effect (uri path : String) (s : Session) : Session → Prop where
  /-- The event is about other documents. -/
  | untouched {t : Session} : Untouched uri s t → Effect uri path s t
  /-- A run of the document is asked for with the text that it has now. -/
  | asked {documents : List Document} {document : Document} :
      documents.find? (fun d => d.uri == uri) = some document →
      Effect uri path s (submitted document.text path uri { s with documents })
  /-- The document is not open, and a run of it is asked for with what its reading gives. -/
  | read {text : String} :
      s.document? uri = none → Effect uri path s (s.submitted text path uri)
  /-- The document is not open any more. -/
  | gone {t : Session} :
      t.document? uri = none → t.isRunning uri = s.isRunning uri → Effect uri path s t
  /-- An interpreter is named, and all open sources are run with it. -/
  | served {interpreter : Datum} :
      interpreter.isOn = true → Effect uri path s (spread s.documents { s with interpreter })
  /-- There is no interpreter any more. -/
  | unserved {t : Session} :
      t.hasInterpreter = false → t.isRunning uri = s.isRunning uri → Effect uri path s t

/-- **What an event does to a source,** if no other document is known by its URI. -/
theorem Event.next_effect {uri path : String} (s : Session)
    (hpath : Uri.filePath uri = .ok path) (hsource : isSourcePath path = true)
    (hkey : Editor.key uri = uri) {event : Event}
    (hdistinct : event.Over fun other => HasPath other → (Editor.key other = uri ↔ other = uri)) :
    Effect uri path s (event.next s) := by
  -- Opening and changing a document put a text in, in the same way.
  have hreplaced : ∀ other text,
      (HasPath other → (Editor.key other = uri ↔ other = uri)) →
        Effect uri path s (s.replaced other text) := by
    intro other text hother
    by_cases hhas : HasPath other
    · by_cases heq : other = uri
      · subst heq
        have hput := find?_enterDocument_self (Editor.key other) text s.documents
        rw [replaced_of_source hpath hsource]
        rw [hkey] at hput ⊢
        exact .asked hput
      · exact .untouched (untouched_replaced heq (fun h' => heq ((hother hhas).1 h')) text s)
    · rw [replaced_of_not_hasPath hhas]
      exact .untouched (Untouched.refl uri s)
  cases event with
  | opened other text => exact hreplaced other text hdistinct
  | changed other text => exact hreplaced other text hdistinct
  | saved other reading =>
      by_cases heq : other = uri
      · subst heq
        cases hopen : s.document? (Editor.key other) with
        | none =>
            rw [next, handled_of_closed hpath hsource hopen]
            rw [hkey] at hopen
            cases reading with
            | ok text => exact .read hopen
            | error failure => exact .untouched (Untouched.refl other s)
        | some document =>
            rw [next, handled_of_open hpath hsource hopen]
            rw [hkey] at hopen
            exact .asked hopen
      · exact .untouched (untouched_handled heq reading s)
  | closed other =>
      by_cases hother : Editor.key other = uri
      · refine .gone ?_ rfl
        rw [← hother]
        exact find?_filter_self (Editor.key other) s.documents
      · refine .untouched (untouched_closed ?_ hother s)
        rintro rfl
        exact hother hkey
  | named refusal interpreter =>
      simp only [Event.next, Session.named]
      split
      · rename_i hon
        exact .served hon
      · rename_i hoff
        refine .unserved ?_ rfl
        simpa [hasInterpreter] using hoff

end Changed

/-! ### The latest text -/

namespace History

/-- The last run of a document that ended was given a text with the interpreter and the stage of
now, and its result is kept. -/
def Shows (uri path text : String) (h : History) : Prop :=
  ∃ ended, (h.endedOf uri).head? = some ended ∧
    ended.task.invocation = h.session.invocation text path ∧
    h.session.blocks.get? uri = some (resultBlocks ended.result) ∧
    h.session.diagnostics.get? uri = some (resultDiagnostics ended.result)

/-- **The latest text of a document is on its way,** or its result is kept. -/
def IsLatest (uri path : String) (h : History) : Prop :=
  ∀ document, h.session.document? uri = some document → h.session.hasInterpreter = true →
    Promised uri path document.text h.session ∨
      { uri, invocation := h.session.invocation document.text path } ∈ h.goingOf uri ∨
        h.underway uri = [] ∧ h.Shows uri path document.text

variable {uri path : String} {h k : History}

theorem IsLatest.of_core (hcore : h.core = k.core) (hk : k.IsLatest uri path) :
    h.IsLatest uri path := by
  change k.core.IsLatest uri path at hk
  rw [← hcore] at hk
  exact hk

/-- Whether the latest text is on its way depends on the document alone. -/
theorem IsLatest.congr (hlatest : h.IsLatest uri path)
    (hsession : Untouched uri h.session k.session) (hgoing : k.goingOf uri = h.goingOf uri)
    (hended : k.endedOf uri = h.endedOf uri) : k.IsLatest uri path := by
  intro document hdocument hon
  have hinvocation := invocation_eq hsession.interpreter hsession.stage document.text path
  rw [hsession.document] at hdocument
  rw [hasInterpreter, hsession.interpreter] at hon
  rcases hlatest document hdocument hon with hpromised | htask | ⟨hnone, hshows⟩
  · left
    rwa [Promised, hsession.pending, hinvocation, hsession.queued]
  · right; left
    rwa [hinvocation, hgoing]
  · right; right
    refine ⟨?_, ?_⟩
    · rwa [underway, hsession.queued, hgoing]
    · rwa [Shows, hended, hinvocation, hsession.blocks, hsession.diagnostics]

/-- What an event does to a source keeps its latest text on its way. -/
theorem IsLatest.effect (hlatest : h.IsLatest uri path) (hpath : Uri.filePath uri = .ok path)
    (hsource : isSourcePath path = true) (hlocated : ∀ d ∈ h.session.documents, HasPath d.uri)
    {t : Session} (heffect : Effect uri path h.session t) :
    IsLatest uri path { h with session := t } := by
  cases heffect with
  | untouched hsame => exact hlatest.congr hsame rfl rfl
  | asked hnow =>
      intro document hdocument hon
      simp only [document?, submitted_documents, hnow, Option.some.injEq] at hdocument
      simp only [hasInterpreter, submitted_interpreter] at hon
      rw [← hdocument]
      exact .inl (promised_submitted hon)
  | read hnone =>
      intro document hdocument
      rw [document?, submitted_documents] at hdocument
      exact absurd (hnone.symm.trans hdocument) (by simp)
  | gone hnone _ =>
      intro document hdocument
      exact absurd (hnone.symm.trans hdocument) (by simp)
  | served hserved =>
      rename_i interpreter
      intro document hdocument hon
      have hopen : h.session.document? uri = some document := by
        simpa [document?] using hdocument
      exact .inl (spread_promised (s := { h.session with interpreter }) hopen hlocated hpath hsource
        hserved)
  | unserved hoff _ =>
      intro document _ hon
      exact absurd (hoff.symm.trans hon) Bool.false_ne_true

/-- The start of a run keeps the latest text on its way. -/
theorem IsLatest.start (hlatest : h.IsLatest uri path) {task : Task} {queue : List Task}
    (hqueue : h.session.queue = task :: queue) :
    IsLatest uri path
      { h with session := { h.session with queue }, going := h.going ++ [task] } := by
  intro document hdocument hon
  have hperm := underway_start_perm hqueue uri
  have hlatest := hlatest document hdocument hon
  -- Waiting and going runs are looked at together, since the run that is started moves over.
  have hmerge : ∀ k : History, (k.session.isPending uri = true ∨
      { uri, invocation := h.session.invocation document.text path } ∈ k.underway uri) ↔
      (k.session.isPending uri = true ∨
        { uri, invocation := h.session.invocation document.text path } ∈ k.session.queued uri) ∨
      { uri, invocation := h.session.invocation document.text path } ∈ k.goingOf uri := by
    intro k
    rw [underway, List.mem_append, or_assoc]
  rw [Promised, ← or_assoc, ← hmerge] at hlatest
  have hafter := hmerge { h with session := { h.session with queue }, going := h.going ++ [task] }
  rw [Promised, ← or_assoc]
  refine hlatest.imp ?_ ?_
  · intro hbefore
    exact hafter.1 (hbefore.imp id hperm.mem_iff.2)
  · rintro ⟨hnone, hshows⟩
    exact ⟨List.perm_nil.1 (hnone ▸ hperm), hshows⟩

/-- A run that is going is the only one of its document. -/
theorem IsBalanced.eq_of_going {task : Task} {place : Nat} (hbalanced : h.IsBalanced)
    (hplace : h.going[place]? = some task) :
    h.session.queued task.uri = [] ∧ h.goingOf task.uri = [task] := by
  have hcount := (hbalanced task.uri).count
  have hbound := Bool.toNat_le (h.session.isRunning task.uri)
  have hmem : task ∈ h.goingOf task.uri := by
    simpa [goingOf] using List.mem_of_getElem? hplace
  have hpos := List.length_pos_of_mem hmem
  obtain ⟨only, honly⟩ := List.length_eq_one_iff.1
    (show (h.goingOf task.uri).length = 1 by omega)
  refine ⟨List.eq_nil_of_length_eq_zero (by omega), ?_⟩
  rw [honly, List.mem_singleton] at hmem
  rw [honly, hmem]

/-- When a run ends, what is under way of its document is what was put into the queue since. -/
theorem IsBalanced.underway_finish {task : Task} {place : Nat} (hbalanced : h.IsBalanced)
    (hplace : h.going[place]? = some task) (s : Session) (ended : List Ended) :
    underway task.uri { session := s, going := h.going.eraseIdx place, ended } =
      s.queued task.uri := by
  have hlength := length_goingOf_eraseIdx hplace rfl s ended
  rw [(hbalanced.eq_of_going hplace).2, List.length_singleton] at hlength
  rw [underway, List.eq_nil_of_length_eq_zero (Nat.succ.inj hlength.symm), List.append_nil]

/-- The end of a run of a marked document puts a run with its latest text into the queue. -/
theorem concluded_of_pending {document : Document} {s : Session}
    (hpath : Uri.filePath uri = .ok path) (hmarked : s.isPending uri = true)
    (hdocument : s.document? uri = some document) (hon : s.hasInterpreter = true)
    (result : Except Invocation.Fault (List Block)) :
    s.concluded uri result =
      enqueued uri (s.invocation document.text path)
        ((s.store uri (resultBlocks result) (resultDiagnostics result)).release uri) := by
  have hstored : (s.store uri (resultBlocks result) (resultDiagnostics result)).isPending uri =
      true := hmarked
  have htext : ((s.store uri (resultBlocks result) (resultDiagnostics result)).release
      uri).latestText? uri = some document.text :=
    congrArg (Option.map Document.text) hdocument
  have hserved : ((s.store uri (resultBlocks result) (resultDiagnostics result)).release
      uri).hasInterpreter = true := hon
  simp only [concluded, finished, hstored, if_true, reran, htext, hpath, submitted, hserved,
    release_running, if_false, Bool.false_eq_true]
  rfl

/-- The end of a run of a document that is not marked keeps its result and releases it. -/
theorem concluded_of_not_pending {s : Session} (hmarked : s.isPending uri = false)
    (result : Except Invocation.Fault (List Block)) :
    s.concluded uri result =
      (s.store uri (resultBlocks result) (resultDiagnostics result)).release uri := by
  have hstored : (s.store uri (resultBlocks result) (resultDiagnostics result)).isPending uri =
      false := hmarked
  simp [concluded, finished, hstored]

@[simp] theorem concluded_documents (uri : String) (result : Except Invocation.Fault (List Block))
    (s : Session) : (s.concluded uri result).documents = s.documents :=
  concluded_keeps (P := fun t => t.documents = s.documents)
    (fun text path t ht => (submitted_documents text path uri t).trans ht) rfl

@[simp] theorem concluded_interpreter (uri : String)
    (result : Except Invocation.Fault (List Block)) (s : Session) :
    (s.concluded uri result).interpreter = s.interpreter :=
  concluded_keeps (P := fun t => t.interpreter = s.interpreter)
    (fun text path t ht => (submitted_interpreter text path uri t).trans ht) rfl

@[simp] theorem concluded_stage (uri : String) (result : Except Invocation.Fault (List Block))
    (s : Session) : (s.concluded uri result).stage = s.stage :=
  concluded_keeps (P := fun t => t.stage = s.stage)
    (fun text path t ht => (submitted_stage text path uri t).trans ht) rfl

/-- The end of a run keeps the latest text on its way: a marked document is run again, and otherwise
the run that ends was the latest one. -/
theorem IsLatest.finish (hlatest : h.IsLatest uri path) (hbalanced : h.IsBalanced)
    (hpath : Uri.filePath uri = .ok path) {place : Nat} {task : Task}
    (hplace : h.going[place]? = some task) (result : Except Invocation.Fault (List Block)) :
    IsLatest uri path
      { session := h.session.concluded task.uri result
        going := h.going.eraseIdx place
        ended := { task, result } :: h.ended } := by
  by_cases heq : task.uri = uri
  · subst heq
    obtain ⟨hqueued, hgoing⟩ := hbalanced.eq_of_going hplace
    intro document hdocument hon
    have hopen : h.session.document? task.uri = some document := by
      simpa [document?] using hdocument
    have hbefore : h.session.hasInterpreter = true := by
      simpa [hasInterpreter] using hon
    cases hmarked : h.session.isPending task.uri with
    | true =>
        left; right
        rw [concluded_of_pending hpath hmarked hopen hbefore result, queued_enqueued, if_pos rfl]
        exact List.mem_append_right _ (List.mem_singleton.2 rfl)
    | false =>
        right; right
        have hconcluded := concluded_of_not_pending hmarked result
        refine ⟨?_, { task, result }, ?_, ?_, ?_, ?_⟩
        · rw [hbalanced.underway_finish hplace, hconcluded]
          exact hqueued
        · simp [endedOf]
        · -- The run that ends is the only one under way, so the latest text is its own.
          rcases hlatest document hopen hbefore with (hpending | hmem) | hmem | ⟨hnone, -⟩
          · exact absurd hpending (by simp [hmarked])
          · rw [hqueued] at hmem
            exact absurd hmem List.not_mem_nil
          · rw [hgoing, List.mem_singleton] at hmem
            rw [hconcluded, ← hmem]
            rfl
          · rw [underway, hgoing] at hnone
            exact absurd hnone (by simp)
        · rw [hconcluded]
          exact store_blocks_self task.uri (resultBlocks result) (resultDiagnostics result)
            h.session
        · rw [hconcluded]
          exact store_diagnostics_self task.uri (resultBlocks result) (resultDiagnostics result)
            h.session
  · refine hlatest.congr (untouched_concluded heq result h.session) ?_ ?_
    · exact goingOf_eraseIdx_other hplace heq _ _
    · simp [endedOf, heq]

/-- **Every step keeps the latest text of a source on its way,** unless it mixes up documents. -/
theorem IsLatest.next [Editor] (hlatest : h.IsLatest uri path) (hbalanced : h.IsBalanced)
    (hpath : Uri.filePath uri = .ok path) (hsource : isSourcePath path = true)
    (hkey : Editor.key uri = uri) (hlocated : ∀ d ∈ h.session.documents, HasPath d.uri) {m : Move}
    (hdistinct : m.Over fun other => HasPath other → (Editor.key other = uri ↔ other = uri)) :
    (h.next m).IsLatest uri path := by
  cases m with
  | event event =>
      exact hlatest.effect hpath hsource hlocated
        (Event.next_effect h.session hpath hsource hkey hdistinct)
  | start =>
      simp only [History.next, takeTask?]
      cases hqueue : h.session.queue with
      | nil => exact hlatest
      | cons task queue => exact hlatest.start hqueue
  | finish place refusal result =>
      simp only [History.next]
      cases hplace : h.going[place]? with
      | none => exact hlatest
      | some task => exact hlatest.finish hbalanced hpath hplace result

/-! ### Open documents have paths -/

/-- All open documents are known by URIs that lead to paths. -/
def IsLocated (h : History) : Prop :=
  ∀ d ∈ h.session.documents, HasPath d.uri

theorem IsLocated.of_core (hcore : h.core = k.core) (hk : k.IsLocated) : h.IsLocated := by
  change k.core.IsLocated at hk
  rw [← hcore] at hk
  exact hk

theorem hasPath_of_mem_enterDocument {key text : String} {documents : List Document}
    (hkey : HasPath key) (hdocuments : ∀ d ∈ documents, HasPath d.uri) :
    ∀ d ∈ enterDocument key text documents, HasPath d.uri := by
  induction documents with
  | nil => simpa [enterDocument] using hkey
  | cons document documents ih =>
      have hrest : ∀ d ∈ documents, HasPath d.uri :=
        fun d hd => hdocuments d (List.mem_cons_of_mem document hd)
      unfold enterDocument
      split
      · exact List.forall_mem_cons.2 ⟨hkey, hrest⟩
      · exact List.forall_mem_cons.2 ⟨hdocuments document List.mem_cons_self, ih hrest⟩

/-- Every step keeps open documents at paths, if documents with paths are known by URIs that lead
to paths too. -/
theorem IsLocated.next [Editor] (hlocated : h.IsLocated) {m : Move}
    (hkeys : m.Over fun other => HasPath other → HasPath (Editor.key other)) :
    (h.next m).IsLocated := by
  have hreplaced : ∀ other text, (HasPath other → HasPath (Editor.key other)) →
      ∀ d ∈ (h.session.replaced other text).documents, HasPath d.uri := by
    intro other text hother
    by_cases hhas : HasPath other
    · rw [replaced_of_hasPath hhas, handled_documents]
      exact hasPath_of_mem_enterDocument (hother hhas) hlocated
    · rw [replaced_of_not_hasPath hhas]
      exact hlocated
  cases m with
  | event event =>
      cases event with
      | opened other text => exact hreplaced other text hkeys
      | changed other text => exact hreplaced other text hkeys
      | saved other reading =>
          intro d hd
          refine hlocated d ?_
          simpa [History.next, Event.next] using hd
      | closed other =>
          intro d hd
          exact hlocated d (List.mem_filter.1 hd).1
      | named refusal interpreter =>
          intro d hd
          refine hlocated d ?_
          simp only [History.next, Event.next, named] at hd
          split at hd
          · simpa using hd
          · exact hd
  | start =>
      simp only [History.next, takeTask?]
      cases h.session.queue with
      | nil => exact hlocated
      | cons task queue => exact hlocated
  | finish place refusal result =>
      simp only [History.next]
      cases h.going[place]? with
      | none => exact hlocated
      | some task =>
          intro d hd
          refine hlocated d ?_
          simpa using hd

end History

end JitExplorer.Session
