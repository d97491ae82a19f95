/-
**What the server does beside a document.**

The side of a session for a document is what the server knows of the document with just this URI,
and keeps for it.  Most pieces of threads leave a side alone: those that look, log or tell
something, and those that belong to another document.  What such a piece puts in front of its thread
leaves the side alone as well.

Main definitions:

* `Session.Side`, `Session.side` — the side of a session for a document;
* `Session.Piece.isAside` — a piece has nothing to do with a document.

Main results:

* `Session.side_replaced` — the side of a document for which a text was given;
* `Session.Piece.act_isAside` — **what has nothing to do with a document leaves its side alone.**
-/

import JitExplorer.Proofs.Session.LatestText
import JitExplorer.Proofs.Session.Pairing

set_option autoImplicit false

namespace JitExplorer.Session

/-! ### Sides -/

/-- What the server knows of a document, and keeps for it. -/
@[ext]
structure Side where
  documents : List Document
  running : Bool
  pending : Bool
  queued : List Task
  blocks : Option (List Block)
  diagnostics : Option (List Diagnostic)

/-- **The side of a session** for the document with a URI. -/
def side (uri : String) (s : Session) : Side where
  documents := s.documents.filter fun document => document.uri == uri
  running := s.isRunning uri
  pending := s.isPending uri
  queued := s.queued uri
  blocks := s.blocks.get? uri
  diagnostics := s.diagnostics.get? uri

section Sides

variable {uri other : String} {s t : Session}

theorem side_of_core (h : t.core = s.core) (uri : String) : t.side uri = s.side uri := by
  have hside : t.core.side uri = s.core.side uri := by
    rw [h]
  exact hside

theorem document?_eq_head? (uri : String) (s : Session) :
    s.document? uri = (s.side uri).documents.head? :=
  List.head?_filter.symm

theorem side_store_self (uri : String) (blocks : List Block) (diagnostics : List Diagnostic)
    (s : Session) :
    (s.store uri blocks diagnostics).side uri =
      { s.side uri with blocks := some blocks, diagnostics := some diagnostics } := by
  simp [side, store, isRunning, isPending, queued]

theorem side_store_of_ne (h : other ≠ uri) (blocks : List Block) (diagnostics : List Diagnostic)
    (s : Session) : (s.store other blocks diagnostics).side uri = s.side uri := by
  simp [side, store, isRunning, isPending, queued, Table.get?_set_of_ne _ _ h]

theorem side_dropDocument_of_ne (h : other ≠ uri) (s : Session) :
    (s.dropDocument other).side uri = s.side uri := by
  simp [side, dropDocument, isRunning, isPending, queued, Table.get?_erase_of_ne _ h]

theorem side_marked_self (uri : String) (s : Session) :
    (s.marked uri).side uri = { s.side uri with pending := true } := by
  simp [side, marked, isRunning, isPending, queued]

theorem side_marked_of_ne (h : other ≠ uri) (s : Session) :
    (s.marked other).side uri = s.side uri := by
  simp [side, marked, isRunning, isPending, queued, Table.get?_set_of_ne _ _ h]

theorem side_running_self (uri : String) (s : Session) :
    ({ s with running := s.running.set uri true } : Session).side uri =
      { s.side uri with running := true } := by
  simp [side, isRunning, isPending, queued]

theorem side_running_of_ne (h : other ≠ uri) (s : Session) :
    ({ s with running := s.running.set other true } : Session).side uri = s.side uri := by
  simp [side, isRunning, isPending, queued, Table.get?_set_of_ne _ _ h]

theorem side_release_self (uri : String) (s : Session) :
    (s.release uri).side uri = { s.side uri with running := false, pending := false } := by
  simp [side, release, isRunning, isPending, queued]

theorem side_release_of_ne (h : other ≠ uri) (s : Session) :
    (s.release other).side uri = s.side uri := by
  simp [side, release, isRunning, isPending, queued, Table.get?_set_of_ne _ _ h,
    Table.get?_erase_of_ne _ h]

theorem side_put_self {task : Task} (h : task.uri = uri) (s : Session) :
    ({ s with queue := s.queue ++ [task] } : Session).side uri =
      { s.side uri with queued := (s.side uri).queued ++ [task] } := by
  simp [side, isRunning, isPending, queued, h]

theorem side_put_of_ne {task : Task} (h : task.uri ≠ uri) (s : Session) :
    ({ s with queue := s.queue ++ [task] } : Session).side uri = s.side uri := by
  simp [side, isRunning, isPending, queued, h]

/-- A text that is given for a document replaces the one that it had. -/
theorem filter_enterDocument_self (uri text : String) (documents : List Document) :
    (enterDocument uri text documents).filter (fun document => document.uri == uri) =
      { uri, text } :: (documents.filter fun document => document.uri == uri).tail := by
  induction documents with
  | nil => simp [enterDocument]
  | cons document documents ih =>
      unfold enterDocument
      by_cases h : document.uri = uri
      · simp [h]
      · simp [h, ih]

theorem filter_enterDocument_of_ne {key : String} (h : key ≠ uri) (text : String)
    (documents : List Document) :
    (enterDocument key text documents).filter (fun document => document.uri == uri) =
      documents.filter fun document => document.uri == uri := by
  induction documents with
  | nil => simp [enterDocument, h]
  | cons document documents ih =>
      unfold enterDocument
      by_cases hkey : document.uri = key
      · simp [hkey, h]
      · rw [if_neg hkey, List.filter_cons, List.filter_cons, ih]

/-- **The side of a document for which a text was given.** -/
theorem side_replaced (uri text : String) (s : Session) :
    ({ s with documents := enterDocument uri text s.documents } : Session).side uri =
      { s.side uri with documents := { uri, text } :: (s.side uri).documents.tail } := by
  simp [side, filter_enterDocument_self, isRunning, isPending, queued]

theorem side_replaced_of_ne {key : String} (h : key ≠ uri) (text : String) (s : Session) :
    ({ s with documents := enterDocument key text s.documents } : Session).side uri =
      s.side uri := by
  simp [side, filter_enterDocument_of_ne h, isRunning, isPending, queued]

theorem side_removed_of_ne {key : String} (h : key ≠ uri) (s : Session) :
    ({ s with documents := s.documents.filter fun d => d.uri != key } : Session).side uri =
      s.side uri := by
  have hfilter : (s.documents.filter fun d => d.uri != key).filter (fun d => d.uri == uri) =
      s.documents.filter fun d => d.uri == uri := by
    rw [List.filter_filter]
    refine List.filter_congr fun document _ => ?_
    by_cases huri : document.uri = uri
    · simp [huri, Ne.symm h]
    · simp [huri]
  simp [side, hfilter, isRunning, isPending, queued]

end Sides

/-! ### Pieces that leave a side alone -/

/-- A piece has nothing to do with a document: it looks, logs or tells something, or it belongs to
another document.  Naming an interpreter may lead to a run of any document. -/
def Piece.isAside [Editor] (uri : String) : Piece → Bool
  | .log _ _ => true
  | .send _ => true
  | .refresh => true
  | .ask _ _ other => other != uri
  | .claim _ _ other => other != uri
  | .equip _ _ other => other != uri
  | .aim _ _ other _ => other != uri
  | .put task => task.uri != uri
  | .explore task => task.uri != uri
  | .keep other _ _ => other != uri
  | .collect _ => true
  | .release other => other != uri
  | .reread other => other != uri
  | .replace _ other _ => Editor.key other != uri
  | .handle _ other _ => other != uri
  | .fetch _ other _ => other != uri
  | .remove other => Editor.key other != uri
  | .drop other => other != uri
  | .name _ => false
  | .visit _ => false
  | .wipe => false
  | .glance _ _ _ _ => true
  | .consult _ _ _ _ => true
  | .present _ _ _ _ _ => true

/-- What a piece aside of a document does. -/
structure ActsAside [Editor] (uri : String) (s : Session)
    (after : Except Failure (List Piece) × Session) :
    Prop where
  side : after.2.side uri = s.side uri
  interpreter : after.2.interpreter = s.interpreter
  more : areAll (Piece.isAside uri) after.1 = true

theorem ActsAside.of_unchanged [Editor] {uri : String} {s t : Session}
    {result : Except Failure (List Piece)} (h : t.core = s.core)
    (hmore : areAll (Piece.isAside uri) result = true) : ActsAside uri s (result, t) := by
  have hinterpreter : t.core.interpreter = s.core.interpreter := by
    rw [h]
  exact ⟨side_of_core h uri, hinterpreter, hmore⟩

/-- **What has nothing to do with a document leaves its side alone.** -/
theorem Piece.act_isAside [Editor] {uri : String} (hkey : Editor.key uri = uri) {piece : Piece}
    (h : piece.isAside uri = true) (answer : Answer) (s : Session) :
    ActsAside uri s (piece.act answer s) := by
  cases piece
  case log | send | collect => exact .of_unchanged rfl rfl
  case refresh =>
    refine .of_unchanged (refresh_core answer.refusal s) ?_
    cases (Session.refresh answer.refusal s).1 <;> rfl
  case name | visit | wipe => exact absurd h Bool.false_ne_true
  case ask text path other =>
    simp only [isAside, bne_iff_ne] at h
    simp only [act]
    split <;> exact .of_unchanged rfl (by simp [areAll, isAside, h])
  case claim text path other =>
    simp only [isAside, bne_iff_ne] at h
    simp only [act]
    split
    · exact ⟨side_marked_of_ne h s, rfl, rfl⟩
    · exact ⟨side_running_of_ne h s, rfl, by simp [areAll, isAside, h]⟩
  case equip | aim => exact .of_unchanged rfl (by simpa [areAll, isAside] using h)
  case put task => exact ⟨side_put_of_ne (by simpa [isAside] using h) s, rfl, rfl⟩
  case explore task =>
    simp only [isAside, bne_iff_ne] at h
    simp only [act, outcome]
    repeat' split
    all_goals exact .of_unchanged rfl (by simp [areAll, isAside, h])
  case keep other blocks diagnostics =>
    exact ⟨side_store_of_ne (by simpa [isAside] using h) blocks diagnostics s, rfl, rfl⟩
  case release other =>
    simp only [isAside, bne_iff_ne] at h
    refine ⟨side_release_of_ne h s, rfl, ?_⟩
    simp only [act]
    split <;> simp [areAll, isAside, h]
  case reread other =>
    simp only [isAside, bne_iff_ne] at h
    simp only [act]
    repeat' split
    all_goals exact .of_unchanged rfl (by simp [areAll, isAside, h])
  case replace event other text =>
    simp only [isAside, bne_iff_ne] at h
    have hne : other ≠ uri := fun heq => h (heq ▸ hkey)
    simp only [act]
    by_cases hpath : HasPath other
    · rw [Editor.put_of_hasPath other text s.documents hpath]
      exact ⟨side_replaced_of_ne h text s, rfl, by simp [areAll, isAside, hne]⟩
    · obtain ⟨failure, hfailure⟩ := Editor.put_of_not_hasPath other text s.documents hpath
      rw [hfailure]
      exact .of_unchanged rfl rfl
  case handle event other reading =>
    simp only [isAside, bne_iff_ne] at h
    simp only [act]
    repeat' split
    all_goals exact .of_unchanged rfl (by simp [areAll, isAside, h])
  case fetch path other reading =>
    simp only [isAside, bne_iff_ne] at h
    simp only [act, documentText_snd]
    refine .of_unchanged rfl ?_
    cases (documentText reading other s).1 <;> simp [areAll, isAside, Except.map, h]
  case remove other =>
    simp only [isAside, bne_iff_ne] at h
    have hne : other ≠ uri := fun heq => h (heq ▸ hkey)
    simp only [act, Editor.remove_eq]
    exact ⟨side_removed_of_ne h s, rfl, by simp [areAll, isAside, hne]⟩
  case drop other =>
    exact ⟨side_dropDocument_of_ne (by simpa [isAside] using h) s, rfl, rfl⟩
  case glance | consult | present =>
    simp only [act]
    repeat' split
    all_goals exact .of_unchanged rfl (by simp [areAll, isAside])

end JitExplorer.Session
