/-
**The grammar of command lines.**

A command line asks for a run exactly if it is a row of items, two of which are positional tokens.
The other items are the verbose flag and keys with their values, which are attached or stand as
tokens of their own.  What the run is asked to do is read off the items: the last value of a key
counts, and it does not matter how the options stand among the positional tokens.

Main definitions:

* `CommandLine.Item`, `CommandLine.Item.tokens`, `CommandLine.Item.IsProper` — the items and the
  tokens that they are written with;
* `CommandLine.positionals`, `CommandLine.lastValue`, `CommandLine.argumentsOf` — what a row of
  items asks for;
* `CommandLine.Reading.take` — what one item adds to a reading;
* `CommandLine.Reads` — how tokens are read to the end.

Main results:

* `CommandLine.readTokens_items` — a row of items is read item by item;
* `CommandLine.Reads.exists_items` — nothing else is read without a complaint;
* `CommandLine.parse_eq_run_iff_items` — **the command lines that ask for a run.**
-/

import JitExplorer.Proofs.CommandLine.Spelling

set_option autoImplicit false

namespace JitExplorer.CommandLine

/-! ### Items -/

/-- The items of a command line. -/
inductive Item where
  | positional (token : String)
  | verbose
  /-- A key with its value, in one token. -/
  | attached (key : Key) (value : String)
  /-- A key with its value, in two tokens. -/
  | separate (key : Key) (value : String)
  deriving DecidableEq, Repr

namespace Item

/-- The tokens that an item is written with. -/
def tokens : Item → List String
  | positional token => [token]
  | verbose => [verboseToken]
  | attached key value => [key.attachedToken value]
  | separate key value => [key.spelling, value]

/-- A positional token does not start with a dash, and a value in a token of its own may be the
value of a key. -/
def IsProper : Item → Prop
  | positional token => isPositional token = true
  | verbose => True
  | attached _ _ => True
  | separate _ value => isValue value = true

instance : DecidablePred IsProper
  | positional token => inferInstanceAs (Decidable (isPositional token = true))
  | verbose => inferInstanceAs (Decidable True)
  | attached _ _ => inferInstanceAs (Decidable True)
  | separate _ value => inferInstanceAs (Decidable (isValue value = true))

/-- The token of a positional item. -/
def positional? : Item → Option String
  | positional token => some token
  | _ => none

/-- The value that an item gives to a key. -/
def value? (key : Key) : Item → Option String
  | attached other value => if other = key then some value else none
  | separate other value => if other = key then some value else none
  | _ => none

end Item

/-- The positional tokens of a row of items, in order. -/
def positionals (items : List Item) : List String :=
  items.filterMap Item.positional?

/-- The items of a row that are no positional tokens, in order. -/
def options (items : List Item) : List Item :=
  items.filter fun item => item.positional?.isNone

/-- The last value that a row of items gives to a key. -/
def lastValue (key : Key) (items : List Item) : Option String :=
  (items.filterMap (Item.value? key)).getLast?

/-- A value turns an option off: without the blanks at its ends and in small letters it is a word
for it. -/
def isOff (value : String) : Bool :=
  ["false".toList, "0".toList].contains ((Text.trim value.toList).map Char.toLower)

/-- **What a row of items asks for.** -/
def argumentsOf (items : List Item) (inputFile outputPath : String) : Arguments where
  format := .text ((lastValue .format items).getD "native")
  debugInfo := if lastValue .debugInfo items = some "none" then .none else .default
  optimize := !(lastValue .optimize items).any isOff
  verbose := items.contains .verbose
  inputFile := inputFile
  outputPath := outputPath

/-! ### Rows of items are read -/

/-- What an item adds to a reading. -/
def Reading.take (reading : Reading) : Item → Reading
  | .positional token => reading.leave [token]
  | .verbose => reading.raise .verbose
  | .attached key value => reading.set key (valueOf value)
  | .separate key value => reading.set key (valueOf value)

/-- **An item is read,** and then what stands behind it. -/
theorem readTokens_tokens_append {item : Item} (h : item.IsProper) (reading : Reading)
    (rest : List String) :
    readTokens reading (item.tokens ++ rest) = readTokens (reading.take item) rest := by
  cases item with
  | positional token =>
      have hclass : classify token.toList = .argument := by
        cases htoken : token.toList with
        | nil => rfl
        | cons c s =>
            refine classify_of_ne_dash s fun hc => ?_
            simp [Item.IsProper, isPositional, htoken, hc] at h
      have hne := ne_dashes_of_classify hclass (by simp)
      simp only [Item.tokens, List.cons_append, List.nil_append, readTokens, if_neg hne, hclass]
      rfl
  | verbose =>
      have hclass : classify verboseToken.toList = .flag .verbose none :=
        classify_of_mem_spellings (.flag .verbose) (List.mem_singleton.2 rfl)
      have hne := ne_dashes_of_classify hclass (by simp)
      simp only [Item.tokens, List.cons_append, List.nil_append, readTokens, if_neg hne, hclass]
      rfl
  | attached key value =>
      have hclass := classify_attachedToken key value
      have hne := ne_dashes_of_classify hclass (by simp)
      simp only [Item.tokens, List.cons_append, List.nil_append, readTokens, if_neg hne, hclass,
        String.ofList_toList]
      rfl
  | separate key value =>
      have hclass : classify key.spelling.toList = .key key none :=
        classify_of_mem_spellings (.key key) (List.mem_singleton.2 rfl)
      have hne := ne_dashes_of_classify hclass (by simp)
      have hvalue : isValue value = true := h
      simp only [Item.tokens, List.cons_append, List.nil_append, readTokens, if_neg hne, hclass,
        hvalue, if_true]
      rfl

/-- **A row of items is read item by item.** -/
theorem readTokens_items {items : List Item} (h : ∀ item ∈ items, item.IsProper)
    (reading : Reading) :
    readTokens reading (items.flatMap Item.tokens) = .ok (items.foldl Reading.take reading) := by
  induction items generalizing reading with
  | nil => rfl
  | cons item items ih =>
      obtain ⟨hitem, hitems⟩ := List.forall_mem_cons.1 h
      rw [List.flatMap_cons, readTokens_tokens_append hitem, ih hitems, List.foldl_cons]

/-! ### Nothing else is read without a complaint -/

/-- **How tokens are read to the end** without a fault. -/
inductive Reads : Reading → List String → Reading → Prop where
  | done (reading : Reading) : Reads reading [] reading
  /-- Nothing behind a double dash is read. -/
  | rest (reading : Reading) (ts : List String) :
      Reads reading (dashes :: ts) (reading.leave (dashes :: ts))
  | left {reading result : Reading} {t : String} {ts : List String} :
      Reads (reading.leave [t]) ts result → Reads reading (t :: ts) result
  | verbose {reading result : Reading} {ts : List String} :
      Reads (reading.raise .verbose) ts result → Reads reading (verboseToken :: ts) result
  | help {reading result : Reading} {t : String} {ts : List String} :
      Reads (reading.raise .help) ts result → Reads reading (t :: ts) result
  | attached {reading result : Reading} {ts : List String} (key : Key) (value : String) :
      Reads (reading.set key (valueOf value)) ts result →
        Reads reading (key.attachedToken value :: ts) result
  | separate {reading result : Reading} {ts : List String} (key : Key) {value : String} :
      isValue value = true → Reads (reading.set key (valueOf value)) ts result →
        Reads reading (key.spelling :: value :: ts) result

theorem reads_of_readTokens {ts : List String} {reading result : Reading}
    (h : readTokens reading ts = .ok result) : Reads reading ts result := by
  induction reading, ts using readTokens.induct with
  | case1 reading =>
      cases h
      exact .done _
  | case2 reading ts =>
      cases (readTokens_dashes reading ts).symm.trans h
      exact .rest _ _
  | case3 reading t ts hne hclass ih | case4 reading t ts hne hclass ih =>
      simp only [readTokens, if_neg hne, hclass] at h
      exact .left (ih h)
  | case5 reading t ts hne flag hclass ih =>
      simp only [readTokens, if_neg hne, hclass] at h
      cases flag with
      | verbose =>
          obtain rfl := eq_verboseToken_of_classify hclass
          exact .verbose (ih h)
      | help => exact .help (ih h)
  | case7 reading t ts hne letters hclass hfault ih =>
      simp only [readTokens, if_neg hne, hclass, hfault] at h
      exact .help (ih h)
  | case9 reading t ts hne key value hclass ih =>
      simp only [readTokens, if_neg hne, hclass] at h
      obtain rfl := eq_attachedToken_of_classify hclass
      exact .attached key (String.ofList value) (ih h)
  | case11 reading t hne key hclass value ts hvalue ih =>
      simp only [readTokens, if_neg hne, hclass, hvalue, if_true] at h
      obtain rfl := eq_spelling_of_classify hclass
      exact .separate key hvalue (ih h)
  | case6 reading t ts hne flag value hclass => simp [readTokens, hne, hclass] at h
  | case8 reading t ts hne letters hclass fault hfault =>
      simp [readTokens, hne, hclass, hfault] at h
  | case10 reading t hne key hclass => simp [readTokens, hne, hclass] at h
  | case12 reading t hne key hclass value ts hvalue => simp [readTokens, hne, hclass, hvalue] at h

namespace Reads

variable {reading result : Reading} {ts : List String}

/-- Help that was asked for is not forgotten. -/
theorem help_mono (h : Reads reading ts result) (hhelp : reading.help = true) :
    result.help = true := by
  induction h with
  | done => exact hhelp
  | rest => exact hhelp
  | left _ ih => exact ih hhelp
  | verbose _ ih => exact ih hhelp
  | help _ ih => exact ih rfl
  | attached key _ _ ih | separate key _ _ ih => exact ih (by cases key <;> exact hhelp)

/-- What is left over is not forgotten. -/
theorem rest_prefix (h : Reads reading ts result) : reading.rest <+: result.rest := by
  induction h with
  | done => exact List.prefix_rfl
  | rest => exact List.prefix_append _ _
  | left _ ih => exact (List.prefix_append _ _).trans ih
  | verbose _ ih => exact ih
  | help _ ih => exact ih
  | attached key _ _ ih | separate key _ _ ih => cases key <;> exact ih

end Reads

/-- A row of items with one more in front. -/
theorem exists_items_cons (item : Item) (hitem : item.IsProper) {ts : List String}
    (h : ∃ items : List Item, (∀ item ∈ items, item.IsProper) ∧ ts = items.flatMap Item.tokens) :
    ∃ items : List Item, (∀ item ∈ items, item.IsProper) ∧
      item.tokens ++ ts = items.flatMap Item.tokens := by
  obtain ⟨items, hitems, rfl⟩ := h
  exact ⟨item :: items, List.forall_mem_cons.2 ⟨hitem, hitems⟩, List.flatMap_cons.symm⟩

/-- **Nothing else is read without a complaint.**  Tokens that are read to the end, without asking
for help and without leaving over anything that starts with a dash, are a row of items. -/
theorem Reads.exists_items {ts : List String} {reading result : Reading}
    (h : Reads reading ts result) (hhelp : result.help = false)
    (hrest : ∀ t ∈ result.rest, isPositional t = true) :
    ∃ items : List Item, (∀ item ∈ items, item.IsProper) ∧ ts = items.flatMap Item.tokens := by
  induction h with
  | done => exact ⟨[], by simp, rfl⟩
  | rest reading ts =>
      -- The double dash is left over, and it starts with a dash.
      exact absurd (hrest dashes (by simp [Reading.leave])) (by decide)
  | left hreads ih =>
      rename_i t ts
      have hleft := hreads.rest_prefix.subset (a := t) (by simp [Reading.leave])
      exact exists_items_cons (.positional t) (hrest t hleft) (ih hhelp hrest)
  | verbose _ ih => exact exists_items_cons .verbose trivial (ih hhelp hrest)
  | help hreads ih => exact absurd (hreads.help_mono rfl) (by simp [hhelp])
  | attached key value _ ih =>
      exact exists_items_cons (.attached key value) trivial (ih hhelp hrest)
  | separate key hvalue _ ih =>
      exact exists_items_cons (.separate key _) hvalue (ih hhelp hrest)

/-! ### What a row of items says -/

namespace Reading

protected theorem ext {old new : Reading} (hformat : old.format = new.format)
    (hdebugInfo : old.debugInfo = new.debugInfo) (hoptimize : old.optimize = new.optimize)
    (hverbose : old.verbose = new.verbose) (hhelp : old.help = new.help)
    (hrest : old.rest = new.rest) : old = new := by
  cases old
  cases new
  simp only at *
  subst hformat hdebugInfo hoptimize hverbose hhelp hrest
  rfl

/-- What a reading has noted for a key. -/
def value (reading : Reading) : Key → Option (Option String)
  | .format => reading.format
  | .debugInfo => reading.debugInfo
  | .optimize => reading.optimize

@[simp] theorem set_help (reading : Reading) (key : Key) (value : Option String) :
    (reading.set key value).help = reading.help := by
  cases key <;> rfl

@[simp] theorem set_verbose (reading : Reading) (key : Key) (value : Option String) :
    (reading.set key value).verbose = reading.verbose := by
  cases key <;> rfl

@[simp] theorem set_rest (reading : Reading) (key : Key) (value : Option String) :
    (reading.set key value).rest = reading.rest := by
  cases key <;> rfl

@[simp] theorem value_set (reading : Reading) (key other : Key) (value : Option String) :
    (reading.set key value).value other =
      if key = other then some value else reading.value other := by
  cases key <;> cases other <;> rfl

@[simp] theorem value_leave (reading : Reading) (key : Key) (tokens : List String) :
    (reading.leave tokens).value key = reading.value key := by
  cases key <;> rfl

@[simp] theorem value_raise (reading : Reading) (key : Key) (flag : Flag) :
    (reading.raise flag).value key = reading.value key := by
  cases key <;> cases flag <;> rfl

theorem take_help (reading : Reading) (item : Item) :
    (reading.take item).help = reading.help := by
  cases item <;> simp [take, leave, raise]

theorem take_rest (reading : Reading) (item : Item) :
    (reading.take item).rest = reading.rest ++ item.positional?.toList := by
  cases item <;> simp [take, leave, raise, Item.positional?]

theorem take_verbose (reading : Reading) (item : Item) :
    (reading.take item).verbose = (reading.verbose || item == .verbose) := by
  cases item <;> simp [take, leave, raise]

theorem value_take (reading : Reading) (item : Item) (key : Key) :
    (reading.take item).value key = ((item.value? key).map valueOf).or (reading.value key) := by
  cases item with
  | positional token => simp [take, Item.value?]
  | verbose => simp [take, Item.value?]
  | attached other value | separate other value =>
      simp only [take, value_set, Item.value?]
      split <;> simp

end Reading

@[simp] theorem positionals_cons (item : Item) (items : List Item) :
    positionals (item :: items) = item.positional?.toList ++ positionals items := by
  cases h : item.positional? <;> simp [positionals, h]

theorem lastValue_cons (key : Key) (item : Item) (items : List Item) :
    lastValue key (item :: items) = (lastValue key items).or (item.value? key) := by
  cases h : item.value? key <;> simp [lastValue, h, List.getLast?_cons, Option.or_some]

theorem help_items (items : List Item) (reading : Reading) :
    (items.foldl Reading.take reading).help = reading.help := by
  induction items generalizing reading with
  | nil => rfl
  | cons item items ih => rw [List.foldl_cons, ih, Reading.take_help]

/-- The positional tokens are left over, in order. -/
theorem rest_items (items : List Item) (reading : Reading) :
    (items.foldl Reading.take reading).rest = reading.rest ++ positionals items := by
  induction items generalizing reading with
  | nil => simp [positionals]
  | cons item items ih =>
      rw [List.foldl_cons, ih, Reading.take_rest, positionals_cons, List.append_assoc]

theorem verbose_items (items : List Item) (reading : Reading) :
    (items.foldl Reading.take reading).verbose = (reading.verbose || items.contains .verbose) := by
  induction items generalizing reading with
  | nil => simp
  | cons item items ih =>
      rw [List.foldl_cons, ih, Reading.take_verbose, List.contains_cons, Bool.or_assoc,
        BEq.comm (a := item)]

/-- The last value of a key is noted. -/
theorem value_items (items : List Item) (reading : Reading) (key : Key) :
    (items.foldl Reading.take reading).value key =
      ((lastValue key items).map valueOf).or (reading.value key) := by
  induction items generalizing reading with
  | nil => rfl
  | cons item items ih =>
      rw [List.foldl_cons, ih, Reading.value_take, lastValue_cons, ← Option.or_assoc, Option.map_or]

/-- Nothing a row of items says depends on where its options stand. -/
theorem lastValue_options (key : Key) (items : List Item) :
    lastValue key (options items) = lastValue key items := by
  have hvalue : ∀ item : Item, item.positional?.isNone = false → item.value? key = none := by
    rintro (_ | _ | _ | _) h
    · rfl
    all_goals cases h
  induction items with
  | nil => rfl
  | cons item items ih =>
      cases h : item.positional?.isNone with
      | true => simpa [options, h, lastValue_cons] using congrArg (Option.or · _) ih
      | false => simpa [options, h, lastValue_cons, hvalue item h] using ih

theorem contains_verbose_options (items : List Item) :
    (options items).contains .verbose = items.contains .verbose := by
  simp [options, Item.positional?]

/-- No key is given a double dash by a row of items that does not attach one. -/
theorem ne_dashes_of_lastValue {items : List Item} (hproper : ∀ item ∈ items, item.IsProper)
    (hdashes : ∀ key : Key, key.attachedToken dashes ∉ items.flatMap Item.tokens) {key : Key}
    {value : String} (h : lastValue key items = some value) : value ≠ dashes := by
  rintro rfl
  obtain ⟨item, hitem, hvalue⟩ := List.mem_filterMap.1 (List.mem_of_getLast? h)
  cases item with
  | positional token => cases hvalue
  | verbose => cases hvalue
  | attached other value =>
      obtain ⟨rfl, rfl⟩ : other = key ∧ value = dashes := by simpa [Item.value?] using hvalue
      exact hdashes other (List.mem_flatMap.2 ⟨_, hitem, List.mem_singleton.2 rfl⟩)
  | separate other value =>
      obtain ⟨rfl, rfl⟩ : other = key ∧ value = dashes := by simpa [Item.value?] using hvalue
      have hvalue : isValue dashes = true := hproper _ hitem
      simp [isValue] at hvalue

/-! ### What is asked for -/

/-- A setting is off if it is written out as off, and on else. -/
theorem getD_readBool? (s : String) : (readBool? s.toList).getD true = !isOff s := by
  unfold readBool? isOff
  generalize (Text.trim s.toList).map Char.toLower = lowered
  simp only [Bool.or_eq_true, decide_eq_true_eq]
  split_ifs with hon hoff
  · rcases hon with rfl | rfl <;> decide
  · rcases hoff with rfl | rfl <;> decide
  · simp only [not_or] at hoff
    simp only [List.contains_cons, List.contains_nil, beq_eq_false_iff_ne.2 hoff.1,
      beq_eq_false_iff_ne.2 hoff.2, Bool.or_false, Option.getD_none, Bool.not_false]

theorem readOptimize_map_some (value : Option String) :
    readOptimize (value.map some) = .ok (!value.any isOff) := by
  cases value with
  | none => rfl
  | some s => exact congrArg Except.ok (getD_readBool? s)

theorem readFormat_map_some (value : Option String) :
    readFormat (value.map some) = .text (value.getD "native") := by
  cases value <;> rfl

theorem readDebugInfo_map_some (value : Option String) :
    readDebugInfo (value.map some) = if value = some "none" then .none else .default := by
  cases value <;> simp [readDebugInfo]

/-- Without help and without unknown arguments, two positional tokens are a run. -/
theorem Reading.request_of_positional {reading : Reading} (hhelp : reading.help = false)
    (hrest : ∀ t ∈ reading.rest, isPositional t = true) {format debugInfo optimize : Option String}
    (hformat : reading.format = format.map some)
    (hdebugInfo : reading.debugInfo = debugInfo.map some)
    (hoptimize : reading.optimize = optimize.map some) :
    reading.request = .ok (match reading.rest with
      | [inputFile, outputPath] => .run
          { format := .text (format.getD "native")
            debugInfo := if debugInfo = some "none" then .none else .default
            optimize := !optimize.any isOff
            verbose := reading.verbose
            inputFile
            outputPath }
      | given => .rejected [.positionals given]) := by
  have hpositionals : reading.rest.filter isPositional = reading.rest := List.filter_eq_self.2 hrest
  have hcomplaints : reading.rest.filter (fun t => !isPositional t) = [] :=
    List.filter_eq_nil_iff.2 fun t ht => by simp [hrest t ht]
  simp only [request, hhelp, hpositionals, hcomplaints, hformat, hdebugInfo, hoptimize,
    readOptimize_map_some, readFormat_map_some, readDebugInfo_map_some, List.map_nil]
  rcases reading.rest with _ | ⟨inputFile, _ | ⟨outputPath, _ | ⟨other, rest⟩⟩⟩ <;> rfl

theorem isPositional_of_mem_positionals {items : List Item}
    (hproper : ∀ item ∈ items, item.IsProper) {t : String} (h : t ∈ positionals items) :
    isPositional t = true := by
  obtain ⟨item, hitem, hsome⟩ := List.mem_filterMap.1 h
  cases item with
  | positional token =>
      cases hsome
      exact hproper _ hitem
  | verbose | attached _ _ | separate _ _ => cases hsome

/-- **A row of items asks for a run** if it has two positional tokens; else the positional tokens
are complained about. -/
theorem parse_items {tokens : List String} {items : List Item}
    (hproper : ∀ item ∈ items, item.IsProper)
    (htokens : dropLeadingDashes tokens = items.flatMap Item.tokens)
    (hdashes : ∀ key : Key, key.attachedToken dashes ∉ dropLeadingDashes tokens) :
    parse tokens = .ok (match positionals items with
      | [inputFile, outputPath] => .run (argumentsOf items inputFile outputPath)
      | given => .rejected [.positionals given]) := by
  rw [htokens] at hdashes
  have hvalue : ∀ key : Key, (items.foldl Reading.take {}).value key =
      (lastValue key items).map some := by
    intro key
    have hnone : Reading.value {} key = none := by cases key <;> rfl
    rw [value_items, hnone, Option.or_none]
    cases h : lastValue key items with
    | none => rfl
    | some value => simp [valueOf, ne_dashes_of_lastValue hproper hdashes h]
  have hrest : (items.foldl Reading.take {}).rest = positionals items := rest_items items {}
  have hverbose : (items.foldl Reading.take {}).verbose = items.contains .verbose := by
    simp [verbose_items]
  have hpositional : ∀ t ∈ (items.foldl Reading.take {}).rest, isPositional t = true := by
    rw [hrest]
    exact fun t => isPositional_of_mem_positionals hproper
  simp only [parse, htokens, readTokens_items hproper]
  rw [Reading.request_of_positional (help_items items {}) hpositional (hvalue .format)
    (hvalue .debugInfo) (hvalue .optimize), hrest, hverbose]
  rfl

/-- Only a row of items asks for a run. -/
theorem exists_items_of_parse {tokens : List String} {arguments : Arguments}
    (h : parse tokens = .ok (.run arguments)) :
    ∃ items : List Item, (∀ item ∈ items, item.IsProper) ∧
      dropLeadingDashes tokens = items.flatMap Item.tokens := by
  unfold parse at h
  split at h
  · cases h
  · rename_i reading hreading
    unfold Reading.request at h
    split at h
    · cases h
    · rename_i hhelp
      dsimp only at h
      split at h
      · rename_i hpositionals hcomplaints
        refine (reads_of_readTokens hreading).exists_items (by simpa using hhelp) fun t ht => ?_
        have hnone := List.filter_eq_nil_iff.1 (List.map_eq_nil_iff.1 hcomplaints) t ht
        simpa using hnone
      · cases h
      · cases h

/-- No item starts with a double dash of its own. -/
theorem dropLeadingDashes_items {items : List Item} (hproper : ∀ item ∈ items, item.IsProper) :
    dropLeadingDashes (items.flatMap Item.tokens) = items.flatMap Item.tokens := by
  cases items with
  | nil => rfl
  | cons item items =>
      have hitem := hproper item List.mem_cons_self
      obtain ⟨t, ts, htokens, hne⟩ : ∃ t ts, item.tokens = t :: ts ∧ t ≠ dashes := by
        cases item with
        | positional token =>
            refine ⟨token, [], rfl, ?_⟩
            rintro rfl
            exact absurd hitem (by decide)
        | verbose => exact ⟨_, _, rfl, by decide⟩
        | attached key value =>
            exact ⟨_, _, rfl, ne_dashes_of_classify (classify_attachedToken key value) (by simp)⟩
        | separate key value => exact ⟨_, _, rfl, by cases key <;> decide⟩
      simp only [List.flatMap_cons, htokens, List.cons_append, dropLeadingDashes, if_neg hne]

/-- A row of items is read in the same way wherever its options stand. -/
theorem foldl_take_eq {items others : List Item}
    (hpositionals : positionals others = positionals items)
    (hoptions : options others = options items) (reading : Reading) :
    others.foldl Reading.take reading = items.foldl Reading.take reading := by
  have hvalue : ∀ key : Key, (others.foldl Reading.take reading).value key =
      (items.foldl Reading.take reading).value key := by
    intro key
    rw [value_items, value_items, ← lastValue_options, hoptions, lastValue_options]
  have hverbose : (others.foldl Reading.take reading).verbose =
      (items.foldl Reading.take reading).verbose := by
    rw [verbose_items, verbose_items, ← contains_verbose_options, hoptions,
      contains_verbose_options]
  have hhelp := (help_items others reading).trans (help_items items reading).symm
  have hrest : (others.foldl Reading.take reading).rest =
      (items.foldl Reading.take reading).rest := by
    rw [rest_items, rest_items, hpositionals]
  exact Reading.ext (hvalue .format) (hvalue .debugInfo) (hvalue .optimize) hverbose hhelp hrest

/-- **The command lines that ask for a run** are the rows of items with two positional tokens, if no
key has a double dash attached to it, and what is asked for is read off the items.  It does not
matter how the options stand among the positional tokens. -/
theorem parse_eq_run_iff_items (tokens : List String)
    (h : ∀ key : Key, key.attachedToken dashes ∉ dropLeadingDashes tokens) :
    (∀ arguments : Arguments, parse tokens = .ok (.run arguments) ↔
      ∃ items inputFile outputPath, (∀ item ∈ items, item.IsProper) ∧
        dropLeadingDashes tokens = items.flatMap Item.tokens ∧
        positionals items = [inputFile, outputPath] ∧
        arguments = argumentsOf items inputFile outputPath) ∧
    ∀ items others : List Item, (∀ item ∈ items, item.IsProper) →
      (∀ item ∈ others, item.IsProper) → dropLeadingDashes tokens = items.flatMap Item.tokens →
      positionals others = positionals items → options others = options items →
      parse (others.flatMap Item.tokens) = parse tokens := by
  refine ⟨fun arguments => ⟨fun hrun => ?_, ?_⟩, ?_⟩
  · obtain ⟨items, hproper, htokens⟩ := exists_items_of_parse hrun
    have hparse := (parse_items hproper htokens h).symm.trans hrun
    split at hparse
    · rename_i inputFile outputPath hpositionals
      cases hparse
      exact ⟨items, inputFile, outputPath, hproper, htokens, hpositionals, rfl⟩
    · cases hparse
  · rintro ⟨items, inputFile, outputPath, hproper, htokens, hpositionals, rfl⟩
    rw [parse_items hproper htokens h, hpositionals]
  · intro items others hproper hothers htokens hpositionals hoptions
    rw [parse, parse, dropLeadingDashes_items hothers, htokens, readTokens_items hothers,
      readTokens_items hproper, foldl_take_eq hpositionals hoptions]

/-- Options on both sides of the positional tokens: the last format is the one that counts, and what
looks like a negative number may be its value. -/
theorem parse_eq_run_optionsAround :
    (∀ key : Key, key.attachedToken dashes ∉ dropLeadingDashes
      ["--", "--format=typed", "a.py", "--optimize= FALSE", "--verbose", "out", "--format", "-1"]) ∧
    parse
      ["--", "--format=typed", "a.py", "--optimize= FALSE", "--verbose", "out", "--format", "-1"] =
      .ok (.run
        { format := .text "-1"
          debugInfo := .default
          optimize := false
          verbose := true
          inputFile := "a.py"
          outputPath := "out" }) := by
  have hdashes : ∀ key : Key, key.attachedToken dashes ∉ dropLeadingDashes
      ["--", "--format=typed", "a.py", "--optimize= FALSE", "--verbose", "out", "--format",
        "-1"] := by
    rintro (_ | _ | _) <;> decide
  refine ⟨hdashes, ((parse_eq_run_iff_items _ hdashes).1 _).2
    ⟨[.attached .format "typed", .positional "a.py", .attached .optimize " FALSE", .verbose,
      .positional "out", .separate .format "-1"], "a.py", "out", ?_, ?_, ?_, ?_⟩⟩
  all_goals decide

end JitExplorer.CommandLine
