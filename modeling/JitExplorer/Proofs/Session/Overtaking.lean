/-
**In which order the versions of a document are run.**

Runs of a document are started in the order in which the document was given them, each with the text
of its version.  The look-up of the text and the run are two steps, though, and no lock holds from
the one to the other.  In between another thread may give the document a newer text and a run of
that, which may even come to its end.  Then the run is overtaken.

Nothing else brings runs out of order, and only a worker that runs the document again can be
overtaken, since the main thread is the one that gives texts.  If the last run is overtaken, then
what is kept in the end is not the result of the newest text, and nothing is under way any more that
would make up for it.

Main definitions:

* `Session.Record.startedVersions` — the versions with which runs were started;
* `Session.Record.IsOvertaken` — a newer version was given a run between a look-up and its run.

Main results:

* `Session.Record.IsOrderly.pairwise_startedVersions_iff`, `Session.Record.IsOrderly.newest_iff` —
  the order of all runs, and the version of the last one;
* `Session.Chronicle.runs_follow_versions_iff` — **runs follow the versions exactly if none is
  overtaken,** and then the newest version is what is kept in the end;
* `Session.Chronicle.exists_overtaken` — a run that is overtaken, and what is kept because of it.
-/

import JitExplorer.Proofs.Session.Chronicle
import JitExplorer.Session.DecodingEditor

set_option autoImplicit false

namespace JitExplorer.Session

/-! ### Runs that are overtaken -/

namespace Record

/-- **A run is overtaken:** a newer version was given a run between the look-up of its text and the
moment in which the document was given this run. -/
def IsOvertaken (r : Record) (j : Nat) : Prop :=
  ∃ (i : Nat) (claim other : Claim), r.claims[j]? = some claim ∧ r.claims[i]? = some other ∧
    claim.before ≤ i ∧ i < j ∧ claim.version < other.version

/-- The versions with which runs were started, in this order. -/
def startedVersions (r : Record) : List Nat :=
  (r.claims.take r.started.length).map fun claim => claim.version

variable {r : Record}

theorem IsOrderly.length_startedVersions (h : r.IsOrderly) :
    r.startedVersions.length = r.started.length := by
  have hlength := h.length
  rw [startedVersions, List.length_map, List.length_take]
  omega

theorem getElem_startedVersions {i : Nat} {claim : Claim}
    (hclaim : r.claims[i]? = some claim) (hi : i < r.startedVersions.length) :
    r.startedVersions[i] = claim.version := by
  obtain ⟨hlt, rfl⟩ := List.getElem?_eq_some_iff.1 hclaim
  simp [startedVersions]

/-- A run that is not overtaken is no older than those before. -/
theorem IsOrderly.version_le (h : r.IsOrderly) {i j : Nat} {claim other : Claim}
    (hclaim : r.claims[j]? = some claim) (hother : r.claims[i]? = some other) (hij : i < j)
    (hnot : ¬ r.IsOvertaken j) : other.version ≤ claim.version := by
  by_cases hbefore : claim.before ≤ i
  · exact Nat.le_of_not_lt fun hlt => hnot ⟨i, claim, other, hclaim, hother, hbefore, hij, hlt⟩
  · have hmem : other ∈ r.claims.take claim.before := by
      refine List.mem_of_getElem? (i := i) ?_
      rw [List.getElem?_take, if_pos (Nat.lt_of_not_le hbefore), hother]
    exact h.older claim (List.mem_of_getElem? hclaim) other hmem

/-- Only runs that workers ask for are overtaken. -/
theorem IsOvertaken.again (h : r.IsOrderly) {j : Nat} (hovertaken : r.IsOvertaken j) :
    ∃ claim, r.claims[j]? = some claim ∧ claim.again = true := by
  obtain ⟨i, claim, other, hclaim, hother, -, hij, hlt⟩ := hovertaken
  refine ⟨claim, hclaim, ?_⟩
  cases hagain : claim.again with
  | true => rfl
  | false =>
      have hmem : other ∈ r.claims.take j := by
        refine List.mem_of_getElem? (i := i) ?_
        rw [List.getElem?_take, if_pos hij, hother]
      exact absurd (h.asked j claim hclaim hagain other hmem) (Nat.not_le_of_lt hlt)

/-- **Runs follow the versions exactly if none is overtaken.** -/
theorem IsOrderly.pairwise_startedVersions_iff (h : r.IsOrderly) :
    r.startedVersions.Pairwise (· ≤ ·) ↔ ∀ j < r.started.length, ¬ r.IsOvertaken j := by
  have hstarted := h.length_startedVersions
  rw [List.pairwise_iff_getElem]
  constructor
  · rintro hsorted j hj ⟨i, claim, other, hclaim, hother, -, hij, hlt⟩
    have hle := hsorted i j (by omega) (by omega) hij
    rw [getElem_startedVersions hclaim, getElem_startedVersions hother] at hle
    omega
  · intro hnone i j hi hj hij
    have hlength := h.length
    have hother := List.getElem?_eq_getElem (l := r.claims) (i := i) (by omega)
    have hclaim := List.getElem?_eq_getElem (l := r.claims) (i := j) (by omega)
    rw [getElem_startedVersions hclaim, getElem_startedVersions hother]
    exact h.version_le hclaim hother hij (hnone j (by omega))

/-- If the newest version was given a run, then the last run is of the newest version exactly if it
is not overtaken. -/
theorem IsOrderly.newest_iff (h : r.IsOrderly) (hnewest : r.HasNewest) (hgiven : r.given ≠ [])
    {claim : Claim} (hlast : r.claims.getLast? = some claim) :
    claim.version = r.given.length ↔ ¬ r.IsOvertaken (r.claims.length - 1) := by
  have hclaim : r.claims[r.claims.length - 1]? = some claim := by
    rwa [List.getLast?_eq_getElem?] at hlast
  constructor
  · rintro hversion ⟨i, claim', other, hclaim', hother, -, -, hlt⟩
    obtain rfl : claim = claim' := Option.some.inj (hclaim.symm.trans hclaim')
    have hbound := h.version other (List.mem_of_getElem? hother)
    omega
  · intro hnot
    obtain ⟨other, hmem, hother⟩ := hnewest.resolve_left hgiven
    obtain ⟨i, hi⟩ := List.mem_iff_getElem?.1 hmem
    have hbound := h.version claim (List.mem_of_getElem? hclaim)
    have hlt := (List.getElem?_eq_some_iff.1 hi).1
    by_cases heq : i = r.claims.length - 1
    · subst heq
      obtain rfl : claim = other := Option.some.inj (hclaim.symm.trans hi)
      exact hother
    · have hle := h.version_le hclaim hi (by omega) hnot
      omega

/-- Runs are started with the texts of their versions. -/
theorem IsOrderly.map_text?_startedVersions (h : r.IsOrderly) :
    r.startedVersions.map r.text? = r.started.map fun task => some task.invocation.text := by
  have hlength := h.length
  refine List.ext_getElem (by simp [h.length_startedVersions]) fun i hi hi' => ?_
  rw [List.length_map] at hi hi'
  have hclaim := List.getElem?_eq_getElem (l := r.claims) (i := i) (by omega)
  rw [List.getElem_map, List.getElem_map, getElem_startedVersions hclaim]
  exact h.started i _ _ hclaim (List.getElem?_eq_getElem hi')

end Record

namespace Chronicle

variable {uri : String} {c : Chronicle}

/-- **Runs follow the versions of their document exactly if none is overtaken.**  However the
threads take their turns while a document is served, each run is started with the text of its
version, and the versions come in their order exactly if no run is overtaken, which can only happen
to runs that workers ask for.  In the end what is kept is the result of the last run, and that is of
the newest version exactly if it was not overtaken. -/
theorem runs_follow_versions_iff [Editor] (hplain : IsPlainSource uri)
    (hreach : c.IsReachable uri) :
    let r := c.record
    let s := c.machine.session
    c.machine.IsReachable ∧
      r.startedVersions.map r.text? = r.started.map (fun task => some task.invocation.text) ∧
      (r.startedVersions.Pairwise (· ≤ ·) ↔ ∀ j < r.started.length, ¬ r.IsOvertaken j) ∧
      (∀ j, r.IsOvertaken j → ∃ claim, r.claims[j]? = some claim ∧ claim.again = true) ∧
      (c.machine.IsIdle → r.given ≠ [] →
        ∃ claim e, r.claims.getLast? = some claim ∧ r.ended.getLast? = some e ∧
          r.started = r.ended.map Ended.task ∧ r.startedVersions.getLast? = some claim.version ∧
          s.blocks.get? uri = some (resultBlocks e.result) ∧
          s.diagnostics.get? uri = some (resultDiagnostics e.result) ∧
          (claim.version = r.given.length ↔ ¬ r.IsOvertaken (r.claims.length - 1))) := by
  intro r s
  have hsound := hreach.isSound hplain
  have horderly := hsound.agrees.orderly
  refine ⟨hreach.machine, horderly.map_text?_startedVersions,
    horderly.pairwise_startedVersions_iff, fun j => Record.IsOvertaken.again horderly, ?_⟩
  intro hidle hgiven
  obtain ⟨hnewest, ⟨hsynced, hlength⟩, hkept⟩ := hsound.settled hidle
  obtain ⟨newest, hmem, -⟩ := hnewest.resolve_left hgiven
  obtain ⟨claim, hlast⟩ : ∃ claim, r.claims.getLast? = some claim :=
    Option.isSome_iff_exists.1 (by simpa using List.ne_nil_of_mem hmem)
  have hended : r.ended ≠ [] := by
    intro hnone
    rw [hsynced, hnone] at hlength
    exact absurd hlength (by simpa using List.ne_nil_of_mem hmem)
  obtain ⟨e, he⟩ : ∃ e, r.ended.getLast? = some e :=
    Option.isSome_iff_exists.1 (by simpa using hended)
  have hversion : r.startedVersions.getLast? = some claim.version := by
    have hall : r.claims.take r.started.length = r.claims :=
      List.take_of_length_le (Nat.le_of_eq hlength)
    rw [Record.startedVersions, hall, List.getLast?_map, hlast]
    rfl
  obtain ⟨hblocks, hdiagnostics⟩ := hkept e he
  exact ⟨claim, e, hlast, he, hsynced, hversion, hblocks, hdiagnostics,
    horderly.newest_iff hnewest hgiven hlast⟩

section Decoding

attribute [local instance] Editor.decoding

/-- The URI of a source. -/
def sourceUri : String := "file:///work/kernels.py"

/-- A run of the source that ends with a block of some name. -/
def endsWith (name : String) : Answer where
  result := .ok [⟨1, 1, name, "", ""⟩]

/-- The source is changed during its first run, and changed again when a worker has just looked up
the second text.  The main thread is given the next run, and the worker the one after that. -/
def overtakingTurns : List Turn :=
  List.flatten
    [[.request (.event (.opened sourceUri "first"))], List.replicate 8 (.main {}),
      [.take, .work 0 {}, .request (.event (.changed sourceUri "second"))],
      List.replicate 5 (.main {}), List.replicate 8 (.work 0 (endsWith "f")),
      [.request (.event (.changed sourceUri "third"))], List.replicate 8 (.main {}),
      [.take], List.replicate 8 (.work 1 (endsWith "h")),
      List.replicate 5 (.work 0 {}), [.take], List.replicate 8 (.work 2 (endsWith "g"))]

/-- The chronicle of the source after these turns. -/
def overtakingChronicle : Chronicle :=
  (fresh (.text "python") (.text "native")).run sourceUri overtakingTurns

theorem isReachable_overtakingChronicle : overtakingChronicle.IsReachable sourceUri := by
  have hordinary : ∀ blocks, IsOrdinaryResult (.ok blocks) := by
    simp [IsOrdinaryResult]
  have hserves : ∀ t ∈ overtakingTurns, ∀ given, t.Serves sourceUri given := by
    simp [overtakingTurns, endsWith, or_imp, forall_and, Turn.Serves, Event.Serves, hordinary]
  refine ⟨_, _, overtakingTurns, rfl, fun front t hfront => hserves t ?_ _, rfl⟩
  exact hfront.subset (List.mem_append_right front (List.mem_singleton.2 rfl))

/-- What the turns come to. -/
theorem overtakingChronicle_facts :
    (overtakingChronicle.machine.main = [] ∧
      (∀ pieces ∈ overtakingChronicle.machine.workers, pieces = []) ∧
        overtakingChronicle.machine.session.queue = []) ∧
      overtakingChronicle.record.given = ["first", "second", "third"] ∧
      overtakingChronicle.record.startedVersions = [1, 3, 2] ∧
      overtakingChronicle.record.started.map (fun task => task.invocation.text) =
        ["first", "third", "second"] ∧
      overtakingChronicle.machine.session.blocks.get? sourceUri = some [⟨1, 1, "g", "", ""⟩] := by
  decide +kernel

theorem isIdle_overtakingChronicle : overtakingChronicle.machine.IsIdle := by
  obtain ⟨⟨hmain, hworkers, hqueue⟩, -⟩ := overtakingChronicle_facts
  exact ⟨hmain, hworkers, hqueue⟩

/-- The run that the worker asks for is overtaken, and what is kept in the end is not of the newest
version. -/
theorem runs_follow_versions_overtaken :
    let r := overtakingChronicle.record
    IsPlainSource sourceUri ∧ overtakingChronicle.IsReachable sourceUri ∧
      (∃ j < r.started.length, r.IsOvertaken j) ∧
      ∃ claim, r.claims.getLast? = some claim ∧ claim.version ≠ r.given.length := by
  intro r
  have hplain : IsPlainSource sourceUri :=
    ⟨by decide +kernel, "/work/kernels.py", rfl, by decide +kernel⟩
  obtain ⟨-, hgiven, hversions, -, -⟩ := overtakingChronicle_facts
  obtain ⟨-, -, hiff, -, hkept⟩ := runs_follow_versions_iff hplain isReachable_overtakingChronicle
  refine ⟨hplain, isReachable_overtakingChronicle, ?_, ?_⟩
  · by_contra hnone
    have hsorted : r.startedVersions.Pairwise (· ≤ ·) :=
      hiff.2 fun j hj hovertaken => hnone ⟨j, hj, hovertaken⟩
    rw [hversions] at hsorted
    exact absurd hsorted (by decide)
  · have hnonempty : r.given ≠ [] := by
      rw [hgiven]
      simp
    obtain ⟨claim, -, hlast, -, -, hversion, -⟩ := hkept isIdle_overtakingChronicle hnonempty
    have hsecond : some 2 = some claim.version := by
      rw [← hversion, hversions]
      rfl
    refine ⟨claim, hlast, ?_⟩
    rw [← Option.some.inj hsecond, hgiven]
    decide

/-- **A run that is overtaken:** the second text is run after the third one, and what it comes to is
kept in the end. -/
theorem exists_overtaken :
    overtakingChronicle.IsReachable sourceUri ∧ overtakingChronicle.machine.IsIdle ∧
      overtakingChronicle.record.given = ["first", "second", "third"] ∧
      overtakingChronicle.record.started.map (fun task => task.invocation.text) =
        ["first", "third", "second"] ∧
      ¬ overtakingChronicle.record.startedVersions.Pairwise (· ≤ ·) ∧
      overtakingChronicle.machine.session.blocks.get? sourceUri = some [⟨1, 1, "g", "", ""⟩] := by
  obtain ⟨-, hgiven, hversions, htexts, hblocks⟩ := overtakingChronicle_facts
  refine ⟨isReachable_overtakingChronicle, isIdle_overtakingChronicle, hgiven, htexts, ?_, hblocks⟩
  rw [hversions]
  decide

end Decoding

end Chronicle

end JitExplorer.Session
