/-
**The past of a document.**

A record holds what is to be known about the past of one document: the texts that it was given, the
runs that it was given and when their texts were looked up, the runs that were started, and how
their processes came to an end.

The number of a version is how many texts the document had been given when it was current.  Between
the look-up of a text and the run that it is meant for, other threads may do anything.

Main definitions:

* `Session.Lookup`, `Session.Claim`, `Session.Record` — look-ups, runs, and the past of a document;
* `Session.Record.note` — what is noted when a thread does a piece;
* `Session.Record.IsDone`, `Session.Record.IsPrepared`, `Session.Record.IsGoing` — how far the last
  run is;
* `Session.Record.IsOrderly` — how the versions of runs follow each other;
* `Session.Record.IsLookup` — a text that was looked up and may be run.

Main results:

* `Session.Record.IsOrderly.claimed` — **runs keep their order** when the document is given one for
  a text that was looked up.
-/

import JitExplorer.Proofs.Session.OneRun
import JitExplorer.Proofs.Session.Side

set_option autoImplicit false

namespace JitExplorer.Session

/-- What stands in a list behind which something was put is an old one at its place, or the new one
at the end. -/
theorem getElem?_concat_cases {α : Type} {l : List α} {a b : α} {i : Nat}
    (h : (l ++ [a])[i]? = some b) : i < l.length ∧ l[i]? = some b ∨ i = l.length ∧ b = a := by
  rw [List.getElem?_append] at h
  split at h
  · rename_i hlt
    exact .inl ⟨hlt, h⟩
  · obtain ⟨hzero, rfl⟩ := List.getElem?_eq_some_iff.1 h
    rw [List.length_singleton] at hzero
    exact .inr ⟨by omega, by simp⟩

/-! ### Records -/

/-- A look-up of the text of a document: how many texts the document had been given by then, and how
many runs. -/
structure Lookup where
  version : Nat := 0
  before : Nat := 0
  deriving DecidableEq, Repr

/-- A run that a document was given: the look-up of its text, and whether it was asked for by a
worker, which runs the document again. -/
structure Claim extends Lookup where
  again : Bool
  deriving DecidableEq, Repr

/-- **The past of a document:** the texts that it was given, the runs that it was given, the runs
that were started and those that came to an end, each from the first one on. -/
structure Record where
  given : List String := []
  claims : List Claim := []
  started : List Task := []
  ended : List Ended := []

namespace Record

/-- A look-up of the text of the document now. -/
def look (r : Record) : Lookup where
  version := r.given.length
  before := r.claims.length

/-- The text of a version. -/
def text? (r : Record) (version : Nat) : Option String :=
  (r.given.take version).getLast?

/-- What is noted when a thread does a piece: a text that the document is given, a run that it is
given, and the end of a process. -/
def note [Editor] (uri : String) (again : Bool) (l : Lookup) (answer : Answer) (s : Session)
    (r : Record) : Piece → Record
  | .replace _ other text =>
      match Editor.put other text s.documents with
      | .error _ => r
      | .ok _ => if Editor.key other = uri then { r with given := r.given ++ [text] } else r
  | .claim _ _ other =>
      if other = uri ∧ s.isRunning uri = false then
        { r with claims := r.claims ++ [{ l with again }] }
      else r
  | .explore task =>
      if task.uri = uri then { r with ended := r.ended ++ [{ task, result := answer.result }] }
      else r
  | _ => r

/-- What is noted when the first run of a queue is taken. -/
def taken (uri : String) (r : Record) : List Task → Record
  | [] => r
  | task :: _ => if task.uri = uri then { r with started := r.started ++ [task] } else r

/-- The last look-up of a thread that does a piece. -/
def lookup (r : Record) (l : Lookup) : Piece → Lookup
  | .fetch _ _ _ => r.look
  | .visit _ => r.look
  | .reread _ => r.look
  | _ => l

end Record

/-- Nothing is noted of what has nothing to do with the document. -/
theorem Record.note_of_isAside [Editor] {uri : String} {piece : Piece}
    (h : piece.isAside uri = true)
    (again : Bool) (l : Lookup) (answer : Answer) (s : Session) (r : Record) :
    r.note uri again l answer s piece = r := by
  cases piece
  case replace event other text =>
    have hkey : Editor.key other ≠ uri := by simpa [Piece.isAside] using h
    simp only [note]
    split
    · rfl
    · exact if_neg hkey
  case claim text path other =>
    have hne : other ≠ uri := by simpa [Piece.isAside] using h
    exact if_neg fun hsame => hne hsame.1
  case explore task =>
    have hne : task.uri ≠ uri := by simpa [Piece.isAside] using h
    exact if_neg hne
  all_goals rfl

/-! ### How far the runs are -/

namespace Record

/-- All runs that the document was given have come to an end. -/
def IsDone (r : Record) : Prop :=
  r.started = r.ended.map Ended.task ∧ r.claims.length = r.started.length

/-- The last run that the document was given is to be started with some text. -/
def IsPrepared (r : Record) (text : String) : Prop :=
  r.started = r.ended.map Ended.task ∧
    ∃ claims claim, r.claims = claims ++ [claim] ∧ claims.length = r.started.length ∧
      r.text? claim.version = some text

/-- The last run that the document was given was started and has not ended. -/
def IsGoing (r : Record) (task : Task) : Prop :=
  r.started = r.ended.map Ended.task ++ [task] ∧ r.claims.length = r.started.length

/-- **The order of the runs.**  Each run is started with the text of its version.  Those that were
given to the document before the text was looked up are no newer; and no run is newer that was given
to it before one that the main thread asked for. -/
structure IsOrderly (r : Record) : Prop where
  length : r.started.length ≤ r.claims.length
  version : ∀ claim ∈ r.claims, claim.version ≤ r.given.length
  started : ∀ (i : Nat) claim task, r.claims[i]? = some claim → r.started[i]? = some task →
    r.text? claim.version = some task.invocation.text
  before : ∀ (i : Nat) claim, r.claims[i]? = some claim → claim.before ≤ i
  older : ∀ claim ∈ r.claims, ∀ other ∈ r.claims.take claim.before, other.version ≤ claim.version
  asked : ∀ (i : Nat) claim, r.claims[i]? = some claim → claim.again = false →
    ∀ other ∈ r.claims.take i, other.version ≤ claim.version

/-- The newest version of the document has been given a run, or there is none. -/
def HasNewest (r : Record) : Prop :=
  r.given = [] ∨ ∃ claim ∈ r.claims, claim.version = r.given.length

/-- A text that was looked up.  The runs that were given before are no newer, and for the main
thread it is still the newest text. -/
structure IsLookup (r : Record) (again : Bool) (l : Lookup) (text : String) : Prop where
  text : r.text? l.version = some text
  version : l.version ≤ r.given.length
  before : l.before ≤ r.claims.length
  older : ∀ claim ∈ r.claims.take l.before, claim.version ≤ l.version
  newest : again = false → l.version = r.given.length

/-- The past of a document goes on. -/
structure Extends (r r' : Record) : Prop where
  given : r.given <+: r'.given
  claims : r.claims <+: r'.claims

variable {r r' : Record}

theorem Extends.refl (r : Record) : r.Extends r :=
  ⟨List.prefix_rfl, List.prefix_rfl⟩

/-- The text of a version stays what it is. -/
theorem Extends.text? (h : r.Extends r') {version : Nat} (hversion : version ≤ r.given.length) :
    r'.text? version = r.text? version := by
  obtain ⟨texts, htexts⟩ := h.given
  unfold Record.text?
  rw [← htexts, List.take_append_of_le_length hversion]

theorem Extends.take_claims (h : r.Extends r') {n : Nat} (hn : n ≤ r.claims.length) :
    r'.claims.take n = r.claims.take n := by
  obtain ⟨claims, hclaims⟩ := h.claims
  rw [← hclaims, List.take_append_of_le_length hn]

/-- The newest text is the text of the newest version. -/
theorem text?_length (r : Record) : r.text? r.given.length = r.given.getLast? := by
  rw [text?, List.take_length]

/-- What is looked up now. -/
theorem isLookup_look (horderly : r.IsOrderly) {text : String} (h : r.given.getLast? = some text)
    (again : Bool) : r.IsLookup again r.look text where
  text := r.text?_length.trans h
  version := Nat.le_refl _
  before := Nat.le_refl _
  older claim hclaim := horderly.version claim (List.mem_of_mem_take hclaim)
  newest _ := rfl

/-- A look-up stays what it is while runs are given to the document, and for workers also while
texts are. -/
theorem IsLookup.extend {again : Bool} {l : Lookup} {text : String} (h : r.IsLookup again l text)
    (hext : r.Extends r') (hgiven : again = false → r'.given = r.given) :
    r'.IsLookup again l text where
  text := (hext.text? h.version).trans h.text
  version := Nat.le_trans h.version hext.given.length_le
  before := Nat.le_trans h.before hext.claims.length_le
  older := by
    rw [hext.take_claims h.before]
    exact h.older
  newest hagain := by rw [hgiven hagain, h.newest hagain]

theorem IsPrepared.extend {text : String} (h : r.IsPrepared text) (horderly : r.IsOrderly)
    (hext : r.Extends r') (hclaims : r'.claims = r.claims) (hstarted : r'.started = r.started)
    (hended : r'.ended = r.ended) : r'.IsPrepared text := by
  obtain ⟨hsynced, claims, claim, heq, hlength, htext⟩ := h
  have hversion := horderly.version claim (by simp [heq])
  refine ⟨by rw [hstarted, hended, hsynced], claims, claim, by rw [hclaims, heq], ?_, ?_⟩
  · rw [hstarted, hlength]
  · rw [hext.text? hversion, htext]

/-- A text is given. -/
theorem IsOrderly.given (h : r.IsOrderly) (text : String) :
    IsOrderly { r with given := r.given ++ [text] } := by
  have hext : r.Extends { r with given := r.given ++ [text] } :=
    ⟨List.prefix_append _ _, List.prefix_rfl⟩
  refine ⟨h.length, fun claim hclaim => ?_, fun i claim task hclaim htask => ?_,
    h.before, h.older, h.asked⟩
  · exact Nat.le_trans (h.version claim hclaim) hext.given.length_le
  · rw [hext.text? (h.version claim (List.mem_of_getElem? hclaim))]
    exact h.started i claim task hclaim htask

/-- A run is given, for a text that was looked up. -/
theorem IsOrderly.claimed (h : r.IsOrderly) {again : Bool} {l : Lookup} {text : String}
    (hlookup : r.IsLookup again l text) :
    IsOrderly { r with claims := r.claims ++ [{ l with again }] } := by
  let claims := r.claims ++ [{ l with again }]
  have htake : ∀ n ≤ r.claims.length, claims.take n = r.claims.take n :=
    fun n hn => List.take_append_of_le_length hn
  refine ⟨?_, ?_, ?_, ?_, ?_, ?_⟩
  · have hlength : claims.length = r.claims.length + 1 := by simp [claims]
    exact Nat.le_trans h.length (hlength ▸ Nat.le_succ _)
  · intro claim hclaim
    obtain ⟨i, hi⟩ := List.mem_iff_getElem?.1 hclaim
    rcases getElem?_concat_cases hi with ⟨-, hold⟩ | ⟨-, rfl⟩
    · exact h.version claim (List.mem_of_getElem? hold)
    · exact hlookup.version
  · intro i claim task hclaim htask
    have hlt : i < r.started.length := (List.getElem?_eq_some_iff.1 htask).1
    have hlength := h.length
    rcases getElem?_concat_cases hclaim with ⟨-, hold⟩ | ⟨rfl, -⟩
    · exact h.started i claim task hold htask
    · omega
  · intro i claim hclaim
    rcases getElem?_concat_cases hclaim with ⟨-, hold⟩ | ⟨rfl, rfl⟩
    · exact h.before i claim hold
    · exact hlookup.before
  · intro claim hclaim
    obtain ⟨i, hi⟩ := List.mem_iff_getElem?.1 hclaim
    rcases getElem?_concat_cases hi with ⟨hlt, hold⟩ | ⟨-, rfl⟩
    · have hbefore := h.before i claim hold
      rw [htake claim.before (by omega)]
      exact h.older claim (List.mem_of_getElem? hold)
    · rw [htake l.before hlookup.before]
      exact hlookup.older
  · intro i claim hclaim hasked other hother
    rcases getElem?_concat_cases hclaim with ⟨hlt, hold⟩ | ⟨rfl, rfl⟩
    · rw [htake i (by omega)] at hother
      exact h.asked i claim hold hasked other hother
    · -- The main thread looked up the newest text, and no version is newer.
      rw [htake _ (Nat.le_refl _), List.take_length] at hother
      have hnewest : l.version = r.given.length := hlookup.newest hasked
      change other.version ≤ l.version
      rw [hnewest]
      exact h.version other hother

/-- The run that is prepared is started. -/
theorem IsOrderly.taken (h : r.IsOrderly) {task : Task}
    (hprepared : r.IsPrepared task.invocation.text) :
    IsOrderly { r with started := r.started ++ [task] } := by
  obtain ⟨-, claims, claim, hclaims, hlength, htext⟩ := hprepared
  refine ⟨?_, h.version, ?_, h.before, h.older, h.asked⟩
  · rw [hclaims, List.length_append, List.length_append, hlength]
    exact Nat.le_refl _
  · intro i other started hother hstarted
    rcases getElem?_concat_cases hstarted with ⟨-, hold⟩ | ⟨hlast, rfl⟩
    · exact h.started i other started hother hold
    · -- The run at this place is the last one, and so is the task.
      rw [hlast, ← hlength, hclaims, List.getElem?_concat_length] at hother
      obtain rfl := Option.some.inj hother
      exact htext

/-- The end of a process changes nothing. -/
theorem IsOrderly.ended (h : r.IsOrderly) (e : Ended) :
    IsOrderly { r with ended := r.ended ++ [e] } :=
  ⟨h.length, h.version, h.started, h.before, h.older, h.asked⟩

/-- The run that is prepared is going once it is started. -/
theorem IsPrepared.isGoing {task : Task} (h : r.IsPrepared task.invocation.text) :
    IsGoing { r with started := r.started ++ [task] } task := by
  obtain ⟨hsynced, claims, claim, hclaims, hlength, -⟩ := h
  refine ⟨congrArg (· ++ [task]) hsynced, ?_⟩
  rw [hclaims, List.length_append, List.length_append, hlength]
  rfl

end Record

end JitExplorer.Session
