/-
**What loading a source answers, and what escapes it.**

A source is to be loaded into a module, or there is to be a load error: with what the execution
raised as its cause, or with none if there is no such file.  It is first asked whether a file stands
at the path, and only the execution is guarded.  So the refusals that this question is answered with
are passed on as they are: a path that holds the null character, and one that is too long to be
looked up.  The latter is a matter of the whole path, or of a name in it that is met behind
directories; a name behind a gap is never met.  A source that is no program is reported with a line,
and a line whose number has too many digits is refused in turn.

Files have no links and are closed to nobody here.  A place that may not be looked at would be one
more refusal that is passed on.

Main definitions:

* `FileTree.Enters`, `FileTree.Reaches`, `FileTree.MeetsLongName` — where segments lead;
* `FileTree.IsOverlong`, `FileTree.HoldsFile` — a path that is too long to be looked up, and one
  that leads to a file;
* `Loading.IsLoadFault` — a failure of the execution that is to be reported as a load error;
* `Loading.IsAnswer`, `Loading.Escapes` — what loading a source is to answer, and the failures that
  are passed on instead.

Main results:

* `FileTree.walk_eq_ok_iff`, `FileTree.walk_eq_tooLong_iff` — where walking a path ends;
* `FileTree.isFile_of_holdsNull`, `FileTree.isFile_of_isOverlong`, `FileTree.isFile_eq_ok` — the
  answers to the question whether a file stands at a path;
* `Loading.load_answered_iff` — **loading a source is answered exactly if nothing escapes it.**
-/

import JitExplorer.Loading
import JitExplorer.Toolchain.Script
import Mathlib.Control.Monad.Basic

set_option autoImplicit false

namespace JitExplorer

namespace FileTree

/-! ### Where segments lead -/

/-- A segment that stays in the directory or goes up. -/
def IsDots (name : String) : Prop :=
  name = FilePath.dot ∨ name = FilePath.dots

theorem isDots_iff (name : String) :
    (name = FilePath.dot || name = FilePath.dots) = true ↔ IsDots name := by
  simp [IsDots]

/-- **A segment leads from a directory to a directory.**  The one that stands for the directory
itself or for the one above always does, any other one has to name a directory. -/
inductive Enters (tree : FileTree) (place : Place) (name : String) : Place → Prop where
  | dots (hdots : IsDots name) : Enters tree place name (FilePath.step place name)
  | below (hname : ¬ IsDots name) (hlong : isLongName name = false)
      (hnode : tree.node? (place ++ [name]) = some .directory) :
      Enters tree place name (place ++ [name])

/-- Segments lead from a directory to a directory. -/
inductive Reaches (tree : FileTree) : Place → List String → Place → Prop where
  | here (place : Place) : Reaches tree place [] place
  | next {place between last : Place} {name : String} {names : List String}
      (henters : tree.Enters place name between) (hreaches : Reaches tree between names last) :
      Reaches tree place (name :: names) last

/-- Behind segments that lead to directories there is a name that is too long. -/
inductive MeetsLongName (tree : FileTree) : Place → List String → Prop where
  | here {place : Place} {name : String} {names : List String} (hname : ¬ IsDots name)
      (hlong : isLongName name = true) : MeetsLongName tree place (name :: names)
  | next {place between : Place} {name : String} {names : List String}
      (henters : tree.Enters place name between) (hmeets : MeetsLongName tree between names) :
      MeetsLongName tree place (name :: names)

variable {tree : FileTree} {place next : Place} {name : String}

theorem enter_of_isDots (hdots : IsDots name) :
    tree.enter place name = .ok (FilePath.step place name) := by
  rw [enter, if_pos ((isDots_iff name).2 hdots)]

/-- A name that is not too long is looked up. -/
theorem enter_of_not_isDots (hname : ¬ IsDots name) :
    tree.enter place name =
      if isLongName name then .error .tooLong
      else
        match tree.node? (place ++ [name]) with
        | some .directory => .ok (place ++ [name])
        | some _ => .error .notDirectory
        | none => .error .missing :=
  if_neg (mt (isDots_iff name).1 hname)

/-- A segment leads somewhere, or it is too long, or it is refused for another reason, which is
never the null character. -/
theorem enter_cases (tree : FileTree) (place : Place) (name : String) :
    (∃ next, tree.enter place name = .ok next ∧ tree.Enters place name next) ∨
      (tree.enter place name = .error .tooLong ∧ ¬ IsDots name ∧ isLongName name = true) ∨
      ∃ refusal, tree.enter place name = .error refusal ∧ refusal ≠ .tooLong ∧
        refusal ≠ .nullCharacter := by
  by_cases hname : IsDots name
  · exact .inl ⟨_, enter_of_isDots hname, .dots hname⟩
  · rw [enter_of_not_isDots hname]
    cases hlong : isLongName name with
    | true => exact .inr (.inl ⟨rfl, hname, rfl⟩)
    | false =>
        cases hnode : tree.node? (place ++ [name]) with
        | none => exact .inr (.inr ⟨_, rfl, nofun, nofun⟩)
        | some node =>
            cases node with
            | directory => exact .inl ⟨_, rfl, .below hname hlong hnode⟩
            | text content => exact .inr (.inr ⟨_, rfl, nofun, nofun⟩)
            | source execution => exact .inr (.inr ⟨_, rfl, nofun, nofun⟩)
            | bytecode => exact .inr (.inr ⟨_, rfl, nofun, nofun⟩)

/-- A segment leads to the directory that it enters. -/
theorem Enters.enter_eq (h : tree.Enters place name next) : tree.enter place name = .ok next := by
  cases h with
  | dots hdots => exact enter_of_isDots hdots
  | below hname hlong hnode =>
      rw [enter_of_not_isDots hname, hlong, hnode]
      rfl

/-- **Walking ends in the directory that the segments lead to.** -/
theorem walk_eq_ok_iff {names : List String} :
    tree.walk place names = .ok next ↔ tree.Reaches place names next := by
  constructor
  · -- By induction on the segments: each of them enters the directory that the rest starts from.
    intro h
    induction names generalizing place with
    | nil =>
        cases h
        exact .here next
    | cons name names ih =>
        rcases enter_cases tree place name with
          ⟨between, henter, henters⟩ | ⟨henter, -⟩ | ⟨refusal, henter, -⟩
        all_goals simp only [walk, henter] at h
        · exact .next henters (ih h)
        · cases h
        · cases h
  · intro h
    induction h with
    | here place => rfl
    | next henters _ ih => rw [walk, henters.enter_eq, ← ih]

/-- **Walking ends at a name that is too long.** -/
theorem walk_eq_tooLong_iff {names : List String} :
    tree.walk place names = .error .tooLong ↔ tree.MeetsLongName place names := by
  constructor
  · intro h
    induction names generalizing place with
    | nil => cases h
    | cons name names ih =>
        rcases enter_cases tree place name with
          ⟨between, henter, henters⟩ | ⟨henter, hname, hlong⟩ | ⟨refusal, henter, hother, -⟩
        all_goals simp only [walk, henter] at h
        · exact .next henters (ih h)
        · exact .here hname hlong
        · cases h
          exact absurd rfl hother
  · intro h
    induction h with
    | here hname hlong => rw [walk, enter_of_not_isDots hname, if_pos hlong]
    | next henters _ ih => rw [walk, henters.enter_eq, ← ih]

/-- Walking does not look for the null character. -/
theorem walk_ne_nullCharacter (tree : FileTree) (place : Place) (names : List String) :
    tree.walk place names ≠ .error .nullCharacter := by
  intro h
  induction names generalizing place with
  | nil => cases h
  | cons name names ih =>
      rcases enter_cases tree place name with
        ⟨between, henter, -⟩ | ⟨henter, -⟩ | ⟨refusal, henter, -, hother⟩
      all_goals simp only [walk, henter] at h
      · exact ih between h
      · cases h
      · cases h
        exact hother rfl

/-- A name that is too long is met in front of the last segment, or it is the last one. -/
theorem meetsLongName_append_singleton_iff {front : List String} {last : String} :
    tree.MeetsLongName place (front ++ [last]) ↔
      tree.MeetsLongName place front ∨
        ∃ directory, tree.Reaches place front directory ∧ ¬ IsDots last ∧
          isLongName last = true := by
  induction front generalizing place with
  | nil =>
      constructor
      · intro h
        cases h with
        | here hname hlong => exact .inr ⟨place, .here place, hname, hlong⟩
        | next _ hmeets => cases hmeets
      · rintro (h | ⟨_, -, hname, hlong⟩)
        · cases h
        · exact .here hname hlong
  | cons name front ih =>
      constructor
      · intro h
        cases h with
        | here hname hlong => exact .inl (.here hname hlong)
        | next henters hmeets =>
            rcases ih.1 hmeets with hfront | ⟨directory, hreaches, hlast⟩
            · exact .inl (.next henters hfront)
            · exact .inr ⟨directory, .next henters hreaches, hlast⟩
      · rintro (h | ⟨directory, hreaches, hlast⟩)
        · cases h with
          | here hname hlong => exact .here hname hlong
          | next henters hmeets => exact .next henters (ih.2 (.inl hmeets))
        · cases hreaches with
          | next henters hreaches => exact .next henters (ih.2 (.inr ⟨directory, hreaches, hlast⟩))

/-! ### Whether a file stands at a path -/

/-- **A path is too long to be looked up:** as a whole, or because of a name that is met. -/
def IsOverlong (tree : FileTree) (path : String) : Prop :=
  maxPathBytes < FilePath.byteCount path ∨
    tree.MeetsLongName (FilePath.start tree.workingDirectory path) (FilePath.names path)

/-- **A path leads to a file.** -/
structure HoldsFile (tree : FileTree) (path : String) : Prop where
  notOverlong : ¬ tree.IsOverlong path
  notSlashed : FilePath.endsWithSlash path = false
  exists_file : ∃ front last directory, FilePath.names path = front ++ [last] ∧
    tree.Reaches (FilePath.start tree.workingDirectory path) front directory ∧
    ¬ IsDots last ∧ isFileNode (tree.node? (directory ++ [last])) = true

variable {path : String}

/-- The null character is looked for first. -/
theorem isFile_of_holdsNull (h : holdsNull path = true) :
    tree.isFile path = .error .nullCharacter := by
  have hempty : ¬ path.isEmpty = true := by
    intro hempty
    rw [String.isEmpty_iff.1 hempty] at h
    cases h
  rw [isFile, find, locate, if_neg hempty, if_pos h]

section Named

variable {front : List String} {last : String} (unnamed : Refusal)
  (hnames : FilePath.names path = front ++ [last]) (hnull : holdsNull path = false)
  (hbytes : ¬ maxPathBytes < FilePath.byteCount path)

include hnames in
theorem not_isEmpty_of_names : ¬ path.isEmpty = true := by
  intro hempty
  rw [String.isEmpty_iff.1 hempty] at hnames
  cases front <;> cases hnames

include hnames hnull hbytes

/-- Whatever is in the way of the last segment is the refusal. -/
theorem locate_of_walk_error {refusal : Refusal}
    (hwalk : tree.walk (FilePath.start tree.workingDirectory path) front = .error refusal) :
    tree.locate path unnamed = .error refusal := by
  rw [locate, if_neg (not_isEmpty_of_names hnames), hnull, if_neg Bool.false_ne_true,
    if_neg hbytes, hnames]
  simp only [List.getLast?_append, List.getLast?_singleton, Option.some_or,
    List.dropLast_concat, hwalk]

/-- The last segment is located in the directory that the others lead to. -/
theorem locate_of_walk_ok {directory : Place}
    (hwalk : tree.walk (FilePath.start tree.workingDirectory path) front = .ok directory) :
    tree.locate path unnamed =
      if last = FilePath.dot || last = FilePath.dots then .error unnamed
      else .ok (directory, last) := by
  rw [locate, if_neg (not_isEmpty_of_names hnames), hnull, if_neg Bool.false_ne_true,
    if_neg hbytes, hnames]
  simp only [List.getLast?_append, List.getLast?_singleton, Option.some_or,
    List.dropLast_concat, hwalk]

end Named

/-- **A path that is too long is refused as such.** -/
theorem isFile_of_isOverlong (hnull : holdsNull path = false) (h : tree.IsOverlong path) :
    tree.isFile path = .error .tooLong := by
  by_cases hbytes : maxPathBytes < FilePath.byteCount path
  · have hempty : ¬ path.isEmpty = true := by
      intro hempty
      rw [String.isEmpty_iff.1 hempty] at hbytes
      exact absurd hbytes (by decide)
    rw [isFile, find, locate, if_neg hempty, hnull, if_neg Bool.false_ne_true, if_pos hbytes]
  · have hmeets := h.resolve_left hbytes
    rcases List.eq_nil_or_concat (FilePath.names path) with hnames | ⟨front, last, hnames⟩
    · rw [hnames] at hmeets
      cases hmeets
    · rw [List.concat_eq_append] at hnames
      rw [hnames, meetsLongName_append_singleton_iff] at hmeets
      rcases hmeets with hfront | ⟨directory, hreaches, hlast, hlong⟩
      · rw [isFile, find, locate_of_walk_error _ hnames hnull hbytes (walk_eq_tooLong_iff.2 hfront)]
      · rw [isFile, find, locate_of_walk_ok _ hnames hnull hbytes (walk_eq_ok_iff.2 hreaches)]
        simp only [if_neg (mt (isDots_iff last).1 hlast), hlong, if_true]

/-- A path without a name leads to a directory. -/
theorem isFile_of_names_nil (hnull : holdsNull path = false)
    (hbytes : ¬ maxPathBytes < FilePath.byteCount path) (hnames : FilePath.names path = []) :
    tree.isFile path = .ok false := by
  rw [isFile, find, locate, hnull, if_neg Bool.false_ne_true, if_neg hbytes, hnames]
  cases path.isEmpty <;> rfl

/-- A path leads to a file if its last name does. -/
theorem holdsFile_iff {front : List String} {last : String}
    (hnames : FilePath.names path = front ++ [last]) (h : ¬ tree.IsOverlong path) :
    tree.HoldsFile path ↔ FilePath.endsWithSlash path = false ∧
      ∃ directory, tree.Reaches (FilePath.start tree.workingDirectory path) front directory ∧
        ¬ IsDots last ∧ isFileNode (tree.node? (directory ++ [last])) = true := by
  constructor
  · rintro ⟨-, hslash, others, other, directory, hsplit, hfile⟩
    obtain ⟨rfl, hlast⟩ := List.append_inj' (hnames.symm.trans hsplit) rfl
    cases hlast
    exact ⟨hslash, directory, hfile⟩
  · rintro ⟨hslash, directory, hfile⟩
    exact ⟨h, hslash, front, last, directory, hnames, hfile⟩

/-- The last name of a path is looked up in the directory that the others lead to, unless it stands
for a directory by itself. -/
theorem isFile_of_reaches {front : List String} {last : String} {directory : Place}
    (hnames : FilePath.names path = front ++ [last]) (hnull : holdsNull path = false)
    (h : ¬ tree.IsOverlong path)
    (hreaches : tree.Reaches (FilePath.start tree.workingDirectory path) front directory) :
    ∃ found, tree.isFile path = .ok found ∧ (found = true ↔ FilePath.endsWithSlash path = false ∧
      ¬ IsDots last ∧ isFileNode (tree.node? (directory ++ [last])) = true) := by
  obtain ⟨hbytes, hmeets⟩ := not_or.1 h
  rw [isFile, find, locate_of_walk_ok _ hnames hnull hbytes (walk_eq_ok_iff.2 hreaches)]
  by_cases hlast : IsDots last
  · simp only [if_pos ((isDots_iff last).2 hlast)]
    exact ⟨false, rfl, nofun, fun hfile => absurd hlast hfile.2.1⟩
  · have hshort : ¬ isLongName last = true := fun hlong =>
      hmeets (hnames ▸ meetsLongName_append_singleton_iff.2
        (.inr ⟨directory, hreaches, hlast, hlong⟩))
    simp only [if_neg (mt (isDots_iff last).1 hlast), if_neg hshort]
    cases hnode : tree.node? (directory ++ [last]) with
    | none => exact ⟨false, rfl, nofun, fun hfile => nomatch hfile.2.2⟩
    | some node =>
        cases hslash : FilePath.endsWithSlash path with
        | false => exact ⟨isFileNode (some node), rfl, by simp [hlast]⟩
        | true =>
            -- In front of a slash a file is refused, and anything else is no file anyway.
            refine ⟨false, ?_, nofun, nofun⟩
            cases node <;> rfl

/-- **Any other path is answered:** with whether it leads to a file. -/
theorem isFile_eq_ok (hnull : holdsNull path = false) (h : ¬ tree.IsOverlong path) :
    ∃ found, tree.isFile path = .ok found ∧ (found = true ↔ tree.HoldsFile path) := by
  obtain ⟨hbytes, hmeets⟩ := not_or.1 h
  rcases List.eq_nil_or_concat (FilePath.names path) with hnames | ⟨front, last, hnames⟩
  · refine ⟨false, isFile_of_names_nil hnull hbytes hnames, nofun, ?_⟩
    rintro ⟨-, -, front, last, -, hsplit, -⟩
    exact absurd (hsplit.symm.trans hnames) (List.append_ne_nil_of_right_ne_nil front nofun)
  · rw [List.concat_eq_append] at hnames
    rw [holdsFile_iff hnames h]
    cases hwalk : tree.walk (FilePath.start tree.workingDirectory path) front with
    | ok directory =>
        have hreaches := walk_eq_ok_iff.1 hwalk
        obtain ⟨found, hfound, hiff⟩ := isFile_of_reaches hnames hnull h hreaches
        refine ⟨found, hfound, hiff.trans (and_congr_right fun _ => ?_)⟩
        -- The walk ends in one directory only.
        constructor
        · exact fun hfile => ⟨directory, hreaches, hfile⟩
        · rintro ⟨other, hother, hfile⟩
          cases hwalk.symm.trans (walk_eq_ok_iff.2 hother)
          exact hfile
    | error refusal =>
        -- Whatever else is in the way of the last name means that there is no file.
        rw [hnames, meetsLongName_append_singleton_iff, not_or] at hmeets
        have hlong : refusal ≠ .tooLong := by
          rintro rfl
          exact hmeets.1 (walk_eq_tooLong_iff.1 hwalk)
        have hother : refusal ≠ .nullCharacter := by
          rintro rfl
          exact walk_ne_nullCharacter _ _ _ hwalk
        refine ⟨false, ?_, nofun, ?_⟩
        · rw [isFile, find, locate_of_walk_error _ hnames hnull hbytes hwalk]
          cases refusal with
          | tooLong => exact absurd rfl hlong
          | nullCharacter => exact absurd rfl hother
          | missing | notDirectory | isDirectory => rfl
        · rintro ⟨-, directory, hreaches, -⟩
          cases hwalk.symm.trans (walk_eq_ok_iff.2 hreaches)

end FileTree

namespace Loading

variable {σ : Type}

/-! ### What loading a source is to answer -/

/-- A failure of an execution that is to be reported as a load error: one that a program is expected
to handle, or a request to end the program. -/
def IsLoadFault (failure : Failure) : Prop :=
  failure.isOrdinary = true ∨ ∃ status, failure.toRaised.nature = .exit status

/-- The path of a source, resolved. -/
def resolvedPath (files : FileTree) (path : String) : String :=
  (FilePath.resolve files.workingDirectory path).text

/-- The execution of the source that a path is resolved to. -/
def executionOf (host : Host) (files : FileTree) (path : String) : Execution :=
  host.executionAt files (FilePath.resolve files.workingDirectory path)

/-- A failure speaks of a line whose number has too many digits. -/
def SpeaksOfOversized (failure : Failure) : Prop :=
  ∃ line detail, failure.toRaised.nature = .syntaxFault (some line) detail ∧
    Text.maxDigits < (Text.natDigits line.natAbs).length

/-- **What loading a source is to answer:** the module, or a load error.  Either carries the
resolved path, and the error has what the execution raised as its cause, or none if there is no
file. -/
inductive IsAnswer (host : Host) (files : FileTree) (path : String) :
    Except Failure Context → Prop where
  | loaded {context : Context} (hfile : files.HoldsFile (resolvedPath files path))
      (hfinishes : executionOf host files path = .finishes)
      (hpath : context.path = resolvedPath files path) : IsAnswer host files path (.ok context)
  | missing (hfile : ¬ files.HoldsFile (resolvedPath files path)) :
      IsAnswer host files path (.error (.explorer (.load (resolvedPath files path) .missing)))
  | raised {failure : Failure} (hfile : files.HoldsFile (resolvedPath files path))
      (hraises : (executionOf host files path).failure? = some failure) :
      IsAnswer host files path
        (.error (.explorer (.load (resolvedPath files path) (.raised failure.toRaised))))

/-- A path holds the null character, as it is given or as it is resolved. -/
def HoldsNull (files : FileTree) (path : String) : Prop :=
  FileTree.holdsNull path = true ∨ FileTree.holdsNull (resolvedPath files path) = true

/-- **A failure escapes the loading of a source:** the refusal of a path that cannot be looked up,
or what the execution raised if that is no load fault, or the refusal of a number in the report. -/
inductive Escapes (host : Host) (files : FileTree) (path : String) : Failure → Prop where
  | nullCharacter (hnull : HoldsNull files path) :
      Escapes host files path (.ordinary "ValueError" "embedded null byte")
  | tooLong (hnull : ¬ HoldsNull files path)
      (hlong : files.IsOverlong (resolvedPath files path)) :
      Escapes host files path (FileTree.Refusal.tooLong.toFailure (resolvedPath files path))
  | interrupted {failure : Failure} (hnull : ¬ HoldsNull files path)
      (hfile : files.HoldsFile (resolvedPath files path))
      (hraises : (executionOf host files path).failure? = some failure)
      (hfault : ¬ IsLoadFault failure) : Escapes host files path failure
  | oversized {failure : Failure} (hnull : ¬ HoldsNull files path)
      (hfile : files.HoldsFile (resolvedPath files path))
      (hraises : (executionOf host files path).failure? = some failure)
      (hspeaks : SpeaksOfOversized failure) : Escapes host files path .oversized

/-- A failure that is no load fault is passed on, and it is no error of the explorer. -/
theorem loadFailure_of_not_isLoadFault (path : String) {failure : Failure}
    (h : ¬ IsLoadFault failure) :
    loadFailure path failure = failure ∧ ∃ raised, failure = .foreign raised := by
  cases failure with
  | explorer error => exact absurd (.inl rfl) h
  | foreign raised =>
      obtain ⟨kind, text, nature⟩ := raised
      cases nature with
      | interrupt => exact ⟨rfl, _, rfl⟩
      | endless => exact ⟨rfl, _, rfl⟩
      | exit status => exact absurd (.inr ⟨status, rfl⟩) h
      | system | syntaxFault line detail | ordinary => exact absurd (.inl rfl) h

/-- A load fault becomes a load error, unless that would speak of an oversized line. -/
theorem loadFailure_of_isLoadFault (path : String) {failure : Failure} (h : IsLoadFault failure)
    (hspeaks : ¬ SpeaksOfOversized failure) :
    loadFailure path failure = .explorer (.load path (.raised failure.toRaised)) := by
  unfold loadFailure
  rcases h with hordinary | ⟨status, hexit⟩
  · unfold Failure.isOrdinary at hordinary
    split
    · next hnature => rw [hnature] at hordinary; cases hordinary
    · next hnature => rw [hnature] at hordinary; cases hordinary
    · next line detail hnature =>
        have hshort : ¬ Text.maxDigits < (Text.natDigits line.natAbs).length :=
          fun hlong => hspeaks ⟨line, detail, hnature, hlong⟩
        simp only [numeral, if_neg hshort]
    · rfl
  · rw [hexit]

theorem loadFailure_of_speaksOfOversized (path : String) {failure : Failure}
    (h : SpeaksOfOversized failure) : loadFailure path failure = .oversized := by
  obtain ⟨line, detail, hnature, hlong⟩ := h
  simp only [loadFailure, hnature, numeral, if_pos hlong]

/-- What escapes is never an error of the explorer. -/
theorem Escapes.exists_foreign {host : Host} {files : FileTree} {path : String} {failure : Failure}
    (h : Escapes host files path failure) : ∃ raised, failure = .foreign raised := by
  cases h with
  | nullCharacter => exact ⟨_, rfl⟩
  | tooLong => exact ⟨_, rfl⟩
  | interrupted _ _ _ hfault => exact (loadFailure_of_not_isLoadFault "" hfault).2
  | oversized => exact ⟨_, rfl⟩

/-! ### Loading -/

section Load

variable (toolchain : Toolchain σ) {path : String} (name : Option String)

/-- The place is known before a name is chosen, and any name is as good. -/
theorem exists_loadAt (bench : Bench σ) (hnull : FileTree.holdsNull path = false) :
    ∃ chosen prepared, load toolchain path name bench =
      loadAt toolchain bench.host bench.files
        (FilePath.resolve bench.files.workingDirectory path) chosen prepared := by
  have hresolve : resolve bench.files path =
      .ok (FilePath.resolve bench.files.workingDirectory path) := by
    rw [resolve, hnull, if_neg Bool.false_ne_true]
  have hchosen : ∃ chosen prepared,
      (chooseName name : Job σ String) bench = (.ok chosen, prepared) := by
    cases name with
    | none => exact ⟨_, _, rfl⟩
    | some name => exact ⟨_, _, rfl⟩
  obtain ⟨chosen, prepared, hchosen⟩ := hchosen
  refine ⟨chosen, prepared, ?_⟩
  rw [load, Act.look_bind_apply, Act.look_bind_apply, hresolve, Act.ofExcept_ok_bind_apply,
    Act.bind_apply, Act.bind_ok _ hchosen]

section At

variable {host : Host} {files : FileTree} {place : Place} (chosen : String) (prepared : Bench σ)

theorem loadAt_of_refused {refusal : FileTree.Refusal}
    (h : files.isFile place.text = .error refusal) :
    (loadAt toolchain host files place chosen prepared).1 =
      .error (refusal.toFailure place.text) := by
  rw [loadAt, h]
  rfl

theorem loadAt_of_missing (h : files.isFile place.text = .ok false) :
    (loadAt toolchain host files place chosen prepared).1 =
      .error (.explorer (.load place.text .missing)) := by
  rw [loadAt, h]
  rfl

theorem loadAt_of_raises {failure : Failure} (h : files.isFile place.text = .ok true)
    (hraises : (host.executionAt files place).failure? = some failure) :
    (loadAt toolchain host files place chosen prepared).1 =
      .error (loadFailure place.text failure) := by
  rw [loadAt, h]
  cases hexecution : host.executionAt files place with
  | finishes =>
      rw [hexecution] at hraises
      cases hraises
  | raises raised | refused raised =>
      rw [hexecution] at hraises
      cases hraises
      rfl

theorem loadAt_of_finishes (h : files.isFile place.text = .ok true)
    (hfinishes : host.executionAt files place = .finishes) :
    (loadAt toolchain host files place chosen prepared).1 =
      .ok { name := chosen, path := place.text } := by
  rw [loadAt, h, hfinishes]
  rfl

end At

variable {bench : Bench σ}

/-- What the source raised is what the loading fails with, as the explorer reports it. -/
theorem load_of_raises {failure : Failure} (hnull : ¬ HoldsNull bench.files path)
    (hfile : bench.files.HoldsFile (resolvedPath bench.files path))
    (hraises : (executionOf bench.host bench.files path).failure? = some failure) :
    (load toolchain path name bench).1 =
      .error (loadFailure (resolvedPath bench.files path) failure) := by
  obtain ⟨hgiven, hresolved⟩ := not_or.1 hnull
  obtain ⟨chosen, prepared, hload⟩ :=
    exists_loadAt toolchain name bench (Bool.eq_false_iff.2 hgiven)
  obtain ⟨found, hfound, hiff⟩ :=
    FileTree.isFile_eq_ok (Bool.eq_false_iff.2 hresolved) hfile.notOverlong
  obtain rfl := hiff.2 hfile
  rw [hload]
  exact loadAt_of_raises toolchain chosen prepared hfound hraises

/-- **What escapes is what the loading fails with.** -/
theorem load_of_escapes {failure : Failure} (h : Escapes bench.host bench.files path failure) :
    (load toolchain path name bench).1 = .error failure := by
  cases h with
  | nullCharacter hnull =>
      by_cases hgiven : FileTree.holdsNull path = true
      · have hresolve : resolve bench.files path =
            .error (FileTree.Refusal.nullCharacter.toFailure path) := by
          rw [resolve, if_pos hgiven]
        rw [load, Act.look_bind_apply, Act.look_bind_apply, hresolve,
          Act.ofExcept_error_bind_apply]
        rfl
      · obtain ⟨chosen, prepared, hload⟩ :=
          exists_loadAt toolchain name bench (Bool.eq_false_iff.2 hgiven)
        rw [hload]
        exact loadAt_of_refused toolchain chosen prepared
          (FileTree.isFile_of_holdsNull (hnull.resolve_left hgiven))
  | tooLong hnull hlong =>
      obtain ⟨hgiven, hresolved⟩ := not_or.1 hnull
      obtain ⟨chosen, prepared, hload⟩ :=
        exists_loadAt toolchain name bench (Bool.eq_false_iff.2 hgiven)
      rw [hload]
      exact loadAt_of_refused toolchain chosen prepared
        (FileTree.isFile_of_isOverlong (Bool.eq_false_iff.2 hresolved) hlong)
  | interrupted hnull hfile hraises hfault =>
      rw [load_of_raises toolchain name hnull hfile hraises,
        (loadFailure_of_not_isLoadFault _ hfault).1]
  | oversized hnull hfile hraises hspeaks =>
      rw [load_of_raises toolchain name hnull hfile hraises,
        loadFailure_of_speaksOfOversized _ hspeaks]

/-- **Whatever nothing escapes from is answered.** -/
theorem isAnswer_of_not_escapes (h : ∀ failure, ¬ Escapes bench.host bench.files path failure) :
    IsAnswer bench.host bench.files path (load toolchain path name bench).1 := by
  have hnull : ¬ HoldsNull bench.files path := fun hnull => h _ (.nullCharacter hnull)
  have hshort : ¬ bench.files.IsOverlong (resolvedPath bench.files path) :=
    fun hlong => h _ (.tooLong hnull hlong)
  obtain ⟨hgiven, hresolved⟩ := not_or.1 hnull
  obtain ⟨chosen, prepared, hload⟩ :=
    exists_loadAt toolchain name bench (Bool.eq_false_iff.2 hgiven)
  obtain ⟨found, hfound, hiff⟩ := FileTree.isFile_eq_ok (Bool.eq_false_iff.2 hresolved) hshort
  cases found with
  | false =>
      rw [hload, loadAt_of_missing toolchain chosen prepared hfound]
      exact .missing fun hfile => nomatch hiff.2 hfile
  | true =>
      have hfile := hiff.1 rfl
      cases hexecution : (executionOf bench.host bench.files path).failure? with
      | none =>
          have hfinishes : executionOf bench.host bench.files path = .finishes := by
            cases hkind : executionOf bench.host bench.files path with
            | finishes => rfl
            | raises failure | refused failure =>
                rw [hkind] at hexecution
                cases hexecution
          rw [hload, loadAt_of_finishes toolchain chosen prepared hfound hfinishes]
          exact .loaded hfile hfinishes rfl
      | some failure =>
          have hfault : IsLoadFault failure := Classical.byContradiction fun hfault =>
            h failure (.interrupted hnull hfile hexecution hfault)
          have hspeaks : ¬ SpeaksOfOversized failure := fun hspeaks =>
            h _ (.oversized hnull hfile hexecution hspeaks)
          rw [load_of_raises toolchain name hnull hfile hexecution,
            loadFailure_of_isLoadFault _ hfault hspeaks]
          exact .raised hfile hexecution

/-- A failure that is no error of the explorer has escaped. -/
theorem escapes_of_load {raised : Raised}
    (h : (load toolchain path name bench).1 = .error (.foreign raised)) :
    Escapes bench.host bench.files path (.foreign raised) := by
  by_cases hescapes : ∃ failure, Escapes bench.host bench.files path failure
  · obtain ⟨failure, hescapes⟩ := hescapes
    cases h.symm.trans (load_of_escapes toolchain name hescapes)
    exact hescapes
  · have hanswer := isAnswer_of_not_escapes toolchain name (not_exists.1 hescapes)
    rw [h] at hanswer
    cases hanswer

end Load

/-- **The only refusal of the operating system that escapes** is the one of a path that is too
long. -/
theorem Escapes.isOverlong {host : Host} {files : FileTree} {path : String} {raised : Raised}
    (h : Escapes host files path (.foreign raised)) (hsystem : raised.nature = .system) :
    ¬ HoldsNull files path ∧ files.IsOverlong (resolvedPath files path) ∧
      .foreign raised = FileTree.Refusal.tooLong.toFailure (resolvedPath files path) := by
  generalize hfailure : Failure.foreign raised = failure at h
  cases h with
  | nullCharacter hnull =>
      cases hfailure
      cases hsystem
  | tooLong hnull hlong => exact ⟨hnull, hlong, rfl⟩
  | interrupted hnull hfile hraises hfault =>
      subst hfailure
      exact absurd (.inl (by rw [Failure.isOrdinary, Failure.toRaised, hsystem])) hfault
  | oversized =>
      cases hfailure
      cases hsystem

/-- An answer is no failure that escapes. -/
theorem IsAnswer.ne_of_escapes {host : Host} {files : FileTree} {path : String}
    {result : Except Failure Context} {failure : Failure} (h : IsAnswer host files path result)
    (hescapes : Escapes host files path failure) : result ≠ .error failure := by
  obtain ⟨raised, rfl⟩ := hescapes.exists_foreign
  rintro rfl
  cases h

/-- **Loading a source is answered exactly if nothing escapes it,** whatever the path, the files and
the execution are, and what escapes is what the loading fails with. -/
theorem load_answered_iff (toolchain : Toolchain σ) (path : String) (name : Option String)
    (bench : Bench σ) :
    (IsAnswer bench.host bench.files path (load toolchain path name bench).1 ↔
      ∀ failure, ¬ Escapes bench.host bench.files path failure) ∧
    ∀ failure, Escapes bench.host bench.files path failure →
      (load toolchain path name bench).1 = .error failure := by
  refine ⟨⟨fun hanswer failure hescapes => ?_, isAnswer_of_not_escapes toolchain name⟩,
    fun failure => load_of_escapes toolchain name⟩
  exact hanswer.ne_of_escapes hescapes (load_of_escapes toolchain name hescapes)

/-- A bench with a source that asks to end the program. -/
def exitingBench : Bench Script where
  compiler := {}
  files := { entries := [(["work", "in.py"], .source (.raises (.foreign ⟨"SystemExit", "3",
    .exit (.number 3)⟩)))] }

/-- The source is found below a directory that does not exist, and its request to end the program is
the cause of a load error. -/
theorem load_answered_exit :
    (load Script.toolchain "gap/../in.py" none exitingBench).1 =
        .error (.explorer (.load "/work/in.py"
          (.raised ⟨"SystemExit", "3", .exit (.number 3)⟩))) ∧
      IsAnswer exitingBench.host exitingBench.files "gap/../in.py"
        (load Script.toolchain "gap/../in.py" none exitingBench).1 := by
  have hload : (load Script.toolchain "gap/../in.py" none exitingBench).1 =
      .error (.explorer (.load "/work/in.py"
        (.raised ⟨"SystemExit", "3", .exit (.number 3)⟩))) := by
    decide +kernel
  obtain ⟨hanswered, hfails⟩ :=
    load_answered_iff Script.toolchain "gap/../in.py" none exitingBench
  refine ⟨hload, hanswered.2 fun failure hescapes => ?_⟩
  obtain ⟨raised, rfl⟩ := hescapes.exists_foreign
  cases hload.symm.trans (hfails _ hescapes)

/-- A name of 256 letters. -/
def longName : String :=
  String.ofList (List.replicate 256 'a')

theorem toList_longName : longName.toList = List.replicate 256 'a' :=
  String.toList_ofList

theorem resolve_longName : FilePath.resolve ["work"] longName = ["work", longName] := by
  have hnames : FilePath.names longName = [longName] := by
    have hsegments : (FilePath.segments (List.replicate 256 'a')).filter (fun s => !s.isEmpty) =
        [List.replicate 256 'a'] := by decide +kernel
    rw [FilePath.names, toList_longName, hsegments]
    rfl
  have hrelative : FilePath.isAbsolute longName = false := by
    rw [FilePath.isAbsolute, toList_longName]
    decide
  have hname : ∀ short : String, short.toList ≠ List.replicate 256 'a' → longName ≠ short := by
    rintro _ hshort rfl
    exact hshort toList_longName
  rw [FilePath.resolve, hnames, FilePath.start, hrelative, if_neg Bool.false_ne_true,
    List.foldl_cons, List.foldl_nil, FilePath.step, if_neg (hname _ (by decide)),
    if_neg (hname _ (by decide))]
  rfl

/-- The characters of the resolved path of that name. -/
theorem toList_resolvedPath_longName :
    (resolvedPath {} longName).toList = "/work/".toList ++ List.replicate 256 'a' := by
  change (FilePath.resolve ["work"] longName).text.toList = _
  rw [resolve_longName, Place.text, String.toList_append, Text.toList_join, List.map_cons,
    List.map_cons, toList_longName]
  rfl

theorem not_holdsNull_longName : ¬ HoldsNull {} longName := by
  rw [HoldsNull, FileTree.holdsNull, FileTree.holdsNull, toList_resolvedPath_longName,
    toList_longName]
  decide +kernel

/-- The name is met in the working directory, and it is too long. -/
theorem isOverlong_longName : ({} : FileTree).IsOverlong (resolvedPath {} longName) := by
  have hsegments : (FilePath.segments ("/work/".toList ++ List.replicate 256 'a')).filter
      (fun s => !s.isEmpty) = ["work".toList, List.replicate 256 'a'] := by decide +kernel
  have hnames : FilePath.names (resolvedPath {} longName) = ["work", longName] := by
    rw [FilePath.names, toList_resolvedPath_longName, hsegments]
    rfl
  have habsolute : FilePath.isAbsolute (resolvedPath {} longName) = true := by
    rw [FilePath.isAbsolute, toList_resolvedPath_longName]
    decide
  have hlong : FileTree.isLongName longName = true := by
    rw [FileTree.isLongName, FilePath.byteCount, toList_longName]
    decide +kernel
  have hdots : ¬ FileTree.IsDots longName := by
    rintro (hdot | hdots)
    · exact absurd (toList_longName.symm.trans (congrArg String.toList hdot)) (by decide)
    · exact absurd (toList_longName.symm.trans (congrArg String.toList hdots)) (by decide)
  refine .inr ?_
  rw [hnames, FilePath.start, if_pos habsolute]
  refine .next (.below ?_ ?_ ?_) (.here hdots hlong)
  · rw [FileTree.IsDots]
    decide
  · decide +kernel
  · rfl

/-- **There is a path that is neither loaded nor reported as a load error:** a name that is too
long, in a directory that exists.  Nothing is executed there. -/
theorem exists_unanswered_longName :
    ∃ bench : Bench Script,
      executionOf bench.host bench.files longName = .finishes ∧
        ¬ IsAnswer bench.host bench.files longName (load Script.toolchain longName none bench).1 := by
  refine ⟨{ compiler := {} }, ?_, fun hanswer => ?_⟩
  · change Host.executionAt {} {} (FilePath.resolve ["work"] longName) = _
    rw [resolve_longName]
    rfl
  · have hescapes : Escapes {} {} longName _ :=
      .tooLong not_holdsNull_longName isOverlong_longName
    exact hanswer.ne_of_escapes hescapes (load_of_escapes Script.toolchain none hescapes)

end Loading

end JitExplorer
