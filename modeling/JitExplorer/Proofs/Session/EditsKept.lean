/-
**No edit is lost, if documents are distinguished.**

When no run of an open source is under way, the last run that ended was given its text, and its
result is kept: this is what the editor relies on.  It holds exactly for sets of URIs that
distinguish documents.  The key by which the editor's library keeps a source has to be its own URI,
since its latest text is looked up under that URI when its run ends; and the keys of documents have
to lead to paths, since no source behind another key is run when the interpreter changes.

All this is said for any library, whatever keys it makes of URIs.  One that decodes them loses the
edits of a document with an escaped space.

Main definitions:

* `Session.History.KeepsEdits` — no edit of a document is lost;
* `Session.Distinguishes` — a set of URIs distinguishes documents.

Main results:

* `Session.exists_lost_of_key_ne` — a document that is kept by another key loses edits;
* `Session.keepsEdits_iff_distinguishes` — no edit is lost exactly if documents are distinguished,
  and then a document that changes during its run is run once more;
* `Session.exists_lost_escapedUri` — an edit that is lost if URIs are decoded.
-/

import JitExplorer.Proofs.Session.FurtherRun
import JitExplorer.Session.DecodingEditor

set_option autoImplicit false

namespace JitExplorer.Session

open History

theorem Move.Over.mono {uris others : String → Prop} (himp : ∀ uri, uris uri → others uri)
    {m : Move} (h : m.Over uris) : m.Over others := by
  cases m with
  | event e =>
      cases e with
      | opened uri text => exact himp uri h
      | changed uri text => exact himp uri h
      | saved uri reading => exact himp uri h
      | closed uri => exact himp uri h
      | named refusal interpreter => trivial
  | start => trivial
  | finish place refusal result => exact h

section Edits

variable [Editor]

/-- **No edit of a document is lost:** if it is an open source, there is an interpreter, and no run
of it is under way, then the result of its latest text is kept. -/
def History.KeepsEdits (uri : String) (h : History) : Prop :=
  ∀ path document, Uri.filePath uri = .ok path → isSourcePath path = true →
    h.session.document? (Editor.key uri) = some document → h.session.hasInterpreter = true →
      h.underway uri = [] → h.Shows uri path document.text

/-- A set of URIs distinguishes documents: the key of a document is the URI of a source only if it
is the source itself, and then it is; and the keys of the documents beside a source lead to paths.
-/
structure Distinguishes (uris : String → Prop) : Prop where
  known : ∀ uri other, uris uri → IsSource uri → uris other → HasPath other →
    (Editor.key other = uri ↔ other = uri)
  located : ∀ uri other, uris uri → IsSource uri → uris other → HasPath other →
    HasPath (Editor.key other)

/-- The key of a document is the URI of a source only if it is the source itself, if every source is
kept by its own URI and no document beside the sources by that of one. -/
theorem key_eq_iff_of_keys {uris : String → Prop}
    (hkey : ∀ uri, uris uri → IsSource uri → Editor.key uri = uri)
    (hbeside : ∀ uri other place, uris uri → IsSource uri → uris other →
      Uri.filePath other = .ok place → isSourcePath place = false → Editor.key other ≠ uri)
    (uri other : String) (huri : uris uri) (hsource : IsSource uri) (hother : uris other)
    (hpath : HasPath other) : Editor.key other = uri ↔ other = uri := by
  constructor
  · intro hsame
    obtain ⟨place, hplace⟩ := hpath
    cases hno : isSourcePath place with
    | true => exact (hkey other hother ⟨place, hplace, hno⟩).symm.trans hsame
    | false => exact absurd hsame (hbeside uri other place huri hsource hother hplace hno)
  · rintro rfl
    exact hkey other huri hsource

/-! ### Distinguished documents keep their edits -/

section Distinguishes

variable {uris : String → Prop} {uri path : String} {h : History}

theorem Distinguishes.key_eq (hd : Distinguishes uris) (huri : uris uri)
    (hsource : IsSource uri) : Editor.key uri = uri :=
  (hd.known uri uri huri hsource huri hsource.hasPath).2 rfl

/-- What is known of every reachable history about a source. -/
theorem Distinguishes.isLatest (hd : Distinguishes uris) (huri : uris uri)
    (hpath : Uri.filePath uri = .ok path) (hsource : isSourcePath path = true)
    (hreach : h.IsReachable uris) : h.IsLocated ∧ h.IsLatest uri path := by
  have hall : h.IsBalanced ∧ h.IsLocated ∧ h.IsLatest uri path := by
    -- The latest text is kept on its way only together with the other two: the end of a run relies
    -- on the balance, and a new interpreter on the paths of the open documents.
    refine hreach.invariant
      (P := fun k => k.IsBalanced ∧ k.IsLocated ∧ k.IsLatest uri path) ?_ ?_ ?_
    · rintro h k hcore ⟨hbalanced, hlocated, hlatest⟩
      exact ⟨hbalanced.of_core hcore, hlocated.of_core hcore, hlatest.of_core hcore⟩
    · intro interpreter stage
      refine ⟨isBalanced_fresh interpreter stage, ?_, ?_⟩
      · intro d hd
        exact absurd hd List.not_mem_nil
      · intro document hdocument
        exact absurd hdocument (by simp [fresh, document?])
    · rintro h m hm ⟨hbalanced, hlocated, hlatest⟩
      have hdistinct := hm.mono fun other hother =>
        hd.known uri other huri ⟨path, hpath, hsource⟩ hother
      have hkeys := hm.mono fun other hother =>
        hd.located uri other huri ⟨path, hpath, hsource⟩ hother
      exact ⟨hbalanced.next m, hlocated.next hkeys, hlatest.next hbalanced hpath hsource
        (hd.key_eq huri ⟨path, hpath, hsource⟩) hlocated hdistinct⟩
  exact hall.2

/-- Distinguished documents keep their edits. -/
theorem Distinguishes.keepsEdits (hd : Distinguishes uris) (hreach : h.IsReachable uris)
    (huri : uris uri) : h.KeepsEdits uri := by
  intro path document hpath hsource hdocument hon hnone
  rw [hd.key_eq huri ⟨path, hpath, hsource⟩] at hdocument
  obtain ⟨-, hlatest⟩ := hd.isLatest huri hpath hsource hreach
  obtain ⟨hqueued, hgoing⟩ := List.append_eq_nil_iff.1 hnone
  rcases hlatest document hdocument hon with (hpending | hmem) | hmem | ⟨-, hshows⟩
  · -- A marked document is believed to have a run, and then one is under way.
    have hbalanced := hreach.isBalanced uri
    have hcount := hbalanced.count
    rw [hqueued, hgoing, hbalanced.pending hpending] at hcount
    exact absurd hcount (by simp)
  · rw [hqueued] at hmem
    exact absurd hmem List.not_mem_nil
  · rw [hgoing] at hmem
    exact absurd hmem List.not_mem_nil
  · exact hshows

/-- A distinguished document that changes during its run is run once more. -/
theorem Distinguishes.runsOnceMore (hd : Distinguishes uris) (hreach : h.IsReachable uris)
    (huri : uris uri) (hpath : Uri.filePath uri = .ok path) (hsource : isSourcePath path = true)
    (hrunning : h.underway uri ≠ []) (text : String) {moves : List Move}
    (hmoves : ∀ m ∈ moves, Move.Over uris m)
    (hended : ((h.move (.event (.changed uri text))).run moves).endedOf uri = h.endedOf uri) :
    ((h.move (.event (.changed uri text))).run moves).RunsOnceMore uri path := by
  have hkey := hd.key_eq huri ⟨path, hpath, hsource⟩
  have hbalanced := hreach.isBalanced
  have hrunning : h.session.isRunning uri = true := by
    cases hstopped : h.session.isRunning uri with
    | true => rfl
    | false =>
        have hcount := (hbalanced uri).count
        rw [hstopped, ← List.length_append] at hcount
        exact absurd (List.eq_nil_of_length_eq_zero hcount) hrunning
  have hchanged : Move.Over uris (.event (.changed uri text)) := huri
  have hkeys : ∀ m, Move.Over uris m →
      m.Over fun other => HasPath other → HasPath (Editor.key other) :=
    fun m hm => hm.mono fun other => hd.located uri other huri ⟨path, hpath, hsource⟩
  have hdistinct : ∀ m, Move.Over uris m →
      m.Over fun other => HasPath other → (Editor.key other = uri ↔ other = uri) :=
    fun m hm => hm.mono fun other => hd.known uri other huri ⟨path, hpath, hsource⟩
  -- The invariant of the moves up to the end of the run that is under way.
  let P : History → Prop := fun k =>
    k.IsBalanced ∧ k.IsLocated ∧ k.IsStaleSince uri (h.endedOf uri)
  have hcore : ∀ k l : History, k.core = l.core → P l → P k := by
    rintro k l hcore ⟨hbalanced, hlocated, hstale⟩
    exact ⟨hbalanced.of_core hcore, hlocated.of_core hcore, hstale.of_core hcore⟩
  have hstart : P (h.move (.event (.changed uri text))) := by
    refine hcore _ _ (move_core h hchanged.isOrdinary) ⟨hbalanced.next _, ?_, .inl ⟨rfl, ?_⟩⟩
    · exact (hd.isLatest huri hpath hsource hreach).1.next (hkeys _ hchanged)
    · exact isStale_of_changed hpath hsource hrunning text
  have hend : P ((h.move (.event (.changed uri text))).run moves) := by
    refine run_invariant (fun m hm => hm.isOrdinary) hcore ?_ hstart hmoves
    rintro k m hm ⟨hbalanced, hlocated, hstale⟩
    exact ⟨hbalanced.next m, hlocated.next (hkeys m hm),
      hstale.next hpath hsource hkey hlocated (hdistinct m hm)⟩
  obtain ⟨hbalanced, -, ⟨-, hstale⟩ | hmore⟩ := hend
  · exact runsOnceMore_of_isStale hbalanced hpath hkey hstale
  · rw [hended] at hmore
    exact absurd hmore (Nat.lt_irrefl _)

end Distinguishes

/-! ### Documents that lose edits -/

section Lost

variable {uris : String → Prop} {uri path : String}

/-- A document that is opened in a fresh history is the only one; a source is run. -/
theorem next_opened_fresh (hpath : Uri.filePath uri = .ok path) (hsource : isSourcePath path = true)
    {interpreter : Datum} (hon : interpreter.isOn = true) (stage : Datum) (text : String) :
    (fresh interpreter stage).next (.event (.opened uri text)) =
      { session :=
          enqueued uri { text, scriptPath := path, interpreter, stage := stage.shown }
            { interpreter, stage, documents := [{ uri := Editor.key uri, text }] } } := by
  rw [History.next, Event.next, replaced_of_source hpath hsource, submitted]
  exact congrArg (fun t => History.mk t [] []) (if_pos hon)

/-- A document that is no source is not run. -/
theorem replaced_of_not_source (hpath : Uri.filePath uri = .ok path)
    (hsource : isSourcePath path = false) (text : String) (s : Session) :
    s.replaced uri text =
      { s with documents := enterDocument (Editor.key uri) text s.documents } := by
  rw [replaced_of_hasPath ⟨path, hpath⟩]
  simp [handled, hpath, hsource]

/-- A history whose core loses an edit is lost. -/
theorem exists_lost_of_next (interpreter stage : Datum) (moves : List Move)
    (hmoves : ∀ m ∈ moves, Move.Over uris m)
    (hlost : ¬ KeepsEdits uri (moves.foldl next (fresh interpreter stage))) :
    ∃ h : History, h.IsReachable uris ∧ ¬ h.KeepsEdits uri := by
  refine ⟨(fresh interpreter stage).run moves, ⟨interpreter, stage, moves, hmoves, rfl⟩, ?_⟩
  intro hkeeps
  have hcore := run_core (h := fresh interpreter stage) rfl fun m hm => (hmoves m hm).isOrdinary
  change KeepsEdits uri ((fresh interpreter stage).run moves).core at hkeeps
  rw [hcore] at hkeeps
  exact hlost hkeeps

/-- An edit is lost if the last run of an open source was not that of its text. -/
theorem not_keepsEdits_of_ended (document : Document) {s : Session} {task : Task}
    {result : Except Invocation.Fault (List Block)} (hpath : Uri.filePath uri = .ok path)
    (hsource : isSourcePath path = true) (hopen : s.document? (Editor.key uri) = some document)
    (hon : s.hasInterpreter = true) (hqueue : s.queue = []) (huri : task.uri = uri)
    (hother : task.invocation ≠ s.invocation document.text path) :
    ¬ KeepsEdits uri { session := s, ended := [{ task, result }] } := by
  intro hkeeps
  have hnone : underway uri { session := s, ended := [{ task, result }] } = [] := by
    simp [underway, queued, goingOf, hqueue]
  obtain ⟨ended, hended, hinvocation, -⟩ := hkeeps path document hpath hsource hopen hon hnone
  obtain rfl : Ended.mk task result = ended := by simpa [endedOf, huri] using hended
  exact hother hinvocation

/-- **A source that is kept by another key loses an edit** that is made during its first run. -/
theorem exists_lost_of_key_ne (huri : uris uri) (hpath : Uri.filePath uri = .ok path)
    (hsource : isSourcePath path = true) (hkey : Editor.key uri ≠ uri) :
    ∃ h : History, h.IsReachable uris ∧ ¬ h.KeepsEdits uri := by
  refine exists_lost_of_next (.text "python") (.text "native") [.event (.opened uri ""), .start,
    .event (.changed uri "pass"), .finish 0 none (.ok [])] ?_ ?_
  · simp [Move.Over, Event.Over, huri, IsOrdinaryResult]
  · -- The run ends with the document marked, but nothing is open under the URI itself.
    have hend : ∃ s : Session, [Move.event (.opened uri ""), .start, .event (.changed uri "pass"),
        .finish 0 none (.ok [])].foldl next (fresh (.text "python") (.text "native")) =
          { session := s
            ended := [{
              task := { uri, invocation := {
                text := "", scriptPath := path, interpreter := .text "python", stage := "native" } }
              result := .ok [] }] } ∧
        s.interpreter = .text "python" ∧ s.queue = [] ∧
          s.documents = [{ uri := Editor.key uri, text := "pass" }] := by
      rw [List.foldl_cons, next_opened_fresh hpath hsource rfl]
      simp [History.next, Event.next, takeTask?, enqueued, replaced_of_source hpath hsource,
        enterDocument, submitted, hasInterpreter, Datum.isOn, isRunning, marked, concluded, finished,
        isPending, store, release, reran, latestText?, document?, hkey]
    obtain ⟨s, hend, hinterpreter, hqueue, hdocuments⟩ := hend
    rw [hend]
    refine not_keepsEdits_of_ended { uri := Editor.key uri, text := "pass" } hpath hsource ?_ ?_
      hqueue rfl ?_
    · simp [document?, hdocuments]
    · rw [hasInterpreter, hinterpreter]
      rfl
    · simp [invocation]

/-- A source is mixed up with a document that is no source and whose key is its URI. -/
theorem exists_lost_of_key_eq {other place : String} (hother : uris other)
    (hplace : Uri.filePath other = .ok place) (hno : isSourcePath place = false)
    (hpath : Uri.filePath uri = .ok path) (hsource : isSourcePath path = true)
    (hkey : Editor.key uri = uri) (hsame : Editor.key other = uri) :
    ∃ h : History, h.IsReachable uris ∧ ¬ h.KeepsEdits uri := by
  refine exists_lost_of_next (.text "python") (.text "native") [.event (.opened other "")] ?_ ?_
  · simp [Move.Over, Event.Over, hother]
  · have hend : [Move.event (.opened other "")].foldl next
        (fresh (.text "python") (.text "native")) =
          { session :=
              { interpreter := .text "python", documents := [{ uri, text := "" }] } } := by
      simp [History.next, Event.next, fresh, replaced_of_not_source hplace hno, enterDocument, hsame]
    rw [hend]
    intro hkeeps
    have hopen : document? { interpreter := .text "python", documents := [{ uri, text := "" }] }
        (Editor.key uri) = some { uri, text := "" } := by
      simp [document?, hkey]
    obtain ⟨ended, hended, -⟩ := hkeeps path { uri, text := "" } hpath hsource hopen rfl rfl
    simp [endedOf] at hended

/-- A source is not run with a new interpreter if the key of a document in front of it leads to no
path. -/
theorem exists_lost_of_not_hasPath {other place : String} (huri : uris uri) (hother : uris other)
    (hplace : Uri.filePath other = .ok place) (hno : isSourcePath place = false)
    (hlost : ¬ HasPath (Editor.key other)) (hpath : Uri.filePath uri = .ok path)
    (hsource : isSourcePath path = true) (hkey : Editor.key uri = uri) :
    ∃ h : History, h.IsReachable uris ∧ ¬ h.KeepsEdits uri := by
  have hapart : Editor.key other ≠ uri := fun heq => hlost (heq ▸ ⟨path, hpath⟩)
  obtain ⟨failure, hfailure⟩ : ∃ failure, Uri.filePath (Editor.key other) = .error failure := by
    cases hcase : Uri.filePath (Editor.key other) with
    | ok path => exact absurd ⟨path, hcase⟩ hlost
    | error failure => exact ⟨failure, rfl⟩
  refine exists_lost_of_next (.text "python") (.text "native") [.event (.opened other ""),
    .event (.opened uri ""), .start, .finish 0 none (.ok []),
    .event (.named none (.text "pypy"))] ?_ ?_
  · simp [Move.Over, Event.Over, huri, hother, IsOrdinaryResult]
  · have hend : ∃ s : Session, [Move.event (.opened other ""), .event (.opened uri ""), .start,
        .finish 0 none (.ok []), .event (.named none (.text "pypy"))].foldl next
          (fresh (.text "python") (.text "native")) =
          { session := s
            ended := [{
              task := { uri, invocation := {
                text := "", scriptPath := path, interpreter := .text "python", stage := "native" } }
              result := .ok [] }] } ∧
        s.interpreter = .text "pypy" ∧ s.queue = [] ∧
          s.documents = [{ uri := Editor.key other, text := "" }, { uri, text := "" }] := by
      simp [fresh, History.next, Event.next, takeTask?, enqueued, replaced_of_source hpath hsource,
        replaced_of_not_source hplace hno, enterDocument, submitted, hasInterpreter, Datum.isOn,
        isRunning, concluded, finished, isPending, store, release, Session.named, spread, hkey,
        hapart, hfailure, invocation, Datum.shown]
    obtain ⟨s, hend, hinterpreter, hqueue, hdocuments⟩ := hend
    rw [hend]
    refine not_keepsEdits_of_ended { uri, text := "" } hpath hsource ?_ ?_ hqueue rfl ?_
    · simp [document?, hdocuments, hkey, hapart]
    · rw [hasInterpreter, hinterpreter]
      rfl
    · simp [invocation, hinterpreter]

end Lost

end Edits

/-- **No edit is lost exactly if documents are distinguished,** whatever keys the library makes of
URIs.  Then a document that changes during its run, as often as it likes, is run exactly once more.
-/
theorem keepsEdits_iff_distinguishes [Editor] (uris : String → Prop) :
    ((∀ h : History, h.IsReachable uris → ∀ uri, uris uri → h.KeepsEdits uri) ↔
        Distinguishes uris) ∧
      (Distinguishes uris → ∀ (h : History) (uri path text : String) (moves : List Move),
        h.IsReachable uris → uris uri → Uri.filePath uri = .ok path → isSourcePath path = true →
          h.underway uri ≠ [] → (∀ m ∈ moves, Move.Over uris m) →
            ((h.move (.event (.changed uri text))).run moves).endedOf uri = h.endedOf uri →
              ((h.move (.event (.changed uri text))).run moves).RunsOnceMore uri path) := by
  refine ⟨⟨?_, fun hd h hreach uri huri => hd.keepsEdits hreach huri⟩, ?_⟩
  · -- Each way in which documents can fail to be distinguished has a history that loses an edit.
    intro hkeeps
    have hnever : ∀ uri, uris uri → ¬ ∃ h : History, h.IsReachable uris ∧ ¬ h.KeepsEdits uri := by
      rintro uri huri ⟨h, hreach, hlost⟩
      exact hlost (hkeeps h hreach uri huri)
    have hkey : ∀ uri, uris uri → IsSource uri → Editor.key uri = uri := by
      rintro uri huri ⟨path, hpath, hsource⟩
      by_cases heq : Editor.key uri = uri
      · exact heq
      · exact absurd (exists_lost_of_key_ne huri hpath hsource heq) (hnever uri huri)
    refine ⟨key_eq_iff_of_keys hkey ?_, ?_⟩
    · rintro uri other place huri ⟨path, hpath, hsource⟩ hother hplace hno hsame
      exact hnever uri huri (exists_lost_of_key_eq hother hplace hno hpath hsource
        (hkey uri huri ⟨path, hpath, hsource⟩) hsame)
    · rintro uri other huri ⟨path, hpath, hsource⟩ hother ⟨place, hplace⟩
      cases hno : isSourcePath place with
      | true =>
          rw [hkey other hother ⟨place, hplace, hno⟩]
          exact ⟨place, hplace⟩
      | false =>
          refine Classical.byContradiction fun hlost => hnever uri huri ?_
          exact exists_lost_of_not_hasPath huri hother hplace hno hlost hpath hsource
            (hkey uri huri ⟨path, hpath, hsource⟩)
  · intro hd h uri path text moves hreach huri hpath hsource hrunning hmoves hended
    exact hd.runsOnceMore hreach huri hpath hsource hrunning text hmoves hended

/-! ### URIs that are decoded -/

section Decoding

attribute [local instance] Editor.decoding

/-- The URI of a source that is its own key. -/
def plainUri : String := "file:///work/kernels.py"

/-- The URI of a source with an escaped space, whose key has the space itself. -/
def escapedUri : String := "file:///work/my%20b.py"

/-- A plain URI loses no edit, and an edit during its first run is run once more. -/
theorem keepsEdits_plainUri :
    Distinguishes (· = plainUri) ∧
      (∀ h : History, h.IsReachable (· = plainUri) → h.KeepsEdits plainUri) ∧
      RunsOnceMore plainUri "/work/kernels.py"
        (((fresh (.text "python") (.text "native")).run [.event (.opened plainUri ""), .start]).move
          (.event (.changed plainUri "pass"))) := by
  have hkey : Editor.key plainUri = plainUri := by decide +kernel
  have hd : Distinguishes (· = plainUri) := by
    refine ⟨?_, ?_⟩
    · rintro uri other rfl - rfl -
      exact iff_of_true hkey rfl
    · rintro uri other rfl hsource rfl -
      rw [hkey]
      exact hsource.hasPath
  obtain ⟨hiff, honce⟩ := keepsEdits_iff_distinguishes (· = plainUri)
  refine ⟨hd, fun h hreach => hiff.2 hd h hreach plainUri rfl, ?_⟩
  refine honce hd _ plainUri _ "pass" [] ⟨_, _, _, ?_, rfl⟩ rfl rfl (by decide +kernel)
    (by decide +kernel) (by simp) rfl
  simp [Move.Over, Event.Over]

/-- A URI with an escaped space loses an edit. -/
theorem exists_lost_escapedUri :
    ∃ h : History, h.IsReachable (· = escapedUri) ∧ ¬ h.KeepsEdits escapedUri := by
  have hpath : Uri.filePath escapedUri = .ok "/work/my b.py" := by rfl
  have hkey : Editor.key escapedUri ≠ escapedUri := by decide +kernel
  exact exists_lost_of_key_ne rfl hpath (by decide +kernel) hkey

end Decoding

end JitExplorer.Session
