import Mathlib
import NetScript.Proofs.Export.History
import NetScript.Proofs.Export.Sequential
import NetScript.Proofs.Export.Torn

/-!
This module contains the effects of a run, in whatever order the entries have their turns. The main
statement is that a run without a manifest changes nothing, and that any other one changes only the
scripts of entries that can be compiled, and reports all entries that fail. Two entries with the
same file can leave there what is the script of neither.
-/

namespace NetScript.Export

/--
The effects of some turns that every entry is done after. The entries that have opened their files
are known by their touches, in the order in which they have happened.
-/
structure Effects (manifest : Manifest) (base : String) (start : FileTree) (turns : List Nat)
    (progress : Progress (List String)) (report : Report) (tree : FileTree) : Prop where
  entries_eq : progress.jobs.map (·.entry) = manifest.programs
  /-- An entry reads its graph in the first of its turns and opens its file in the third one. -/
  outcomes : ∀ i entry, manifest.programs[i]? = some entry →
    ∃ first third, Finds manifest base start turns i 0 first ∧
      Finds manifest base start turns i 2 third ∧
      progress.stage? i = some (outcome manifest base entry first third) ∧
      progress.touches.filter (·.entry = i) =
        Touch.all i (openedFor? manifest base entry first third)
  known : ∀ touch ∈ progress.touches, touch.entry < manifest.programs.length
  /-- A place holds what the touches of it, one after the other, make of what it held before. -/
  files : ∀ place, tree.find? place = replay manifest base start place progress.touches
  /-- Only scripts of entries that can be compiled change. -/
  changes : ∀ place, tree.find? place ≠ start.find? place →
    ∃ i entry first text script, manifest.programs[i]? = some entry ∧
      start.filePlace? (manifest.scriptPath base entry) = some place ∧
      Finds manifest base start turns i 0 first ∧
      first.readText (Manifest.graphPath base entry) = .ok text ∧
      Script.compileText text = .ok script
  /-- No turn of an entry that cannot open its file changes anything. -/
  keeps : ∀ i entry first third, manifest.programs[i]? = some entry →
    Finds manifest base start turns i 0 first → Finds manifest base start turns i 2 third →
    openedFor? manifest base entry first third = none →
    ∀ before, before ++ [i] <+: turns →
      (after manifest base start (before ++ [i])).2 = (after manifest base start before).2
  /-- The last entry to write to a file leaves its script if it was alone with the file. -/
  wholes : ∀ i before between later script place,
    progress.touches = before ++ .emptied i :: (between ++ .written i script :: later) →
    scriptPlace? manifest base start i = some place →
    (∀ touch ∈ between ++ later, scriptPlace? manifest base start touch.entry ≠ some place) →
    (∀ failure, progress.stage? i ≠ some (.failed failure)) →
    ∃ entry first text, manifest.programs[i]? = some entry ∧
      Finds manifest base start turns i 0 first ∧
      first.readText (Manifest.graphPath base entry) = .ok text ∧
      Script.compileText text = .ok script ∧
      tree.find? place = some (.file (.ofText script.source))
  workDir_eq : tree.workDir = start.workDir
  limits_eq : tree.limits = start.limits
  succeeds_iff : report.error? = none ↔
    ∀ i failure, progress.stage? i ≠ some (.failed failure)
  failures_eq : report.failures = progress.failures
  /-- The errors are in the order of the entries. A filter may keep some from being shown. -/
  errors_eq : ∀ filter : Log.Filter,
    (report.events.filter filter.shows).filter (·.level = .error) =
      (progress.failures.map failureEvent).filter filter.shows
  message_eq : ∀ error, report.error? = some error →
    error.message = "Error: " ++ toString progress.failures.length ++ " of " ++
      toString manifest.programs.length ++ " exports failed"

variable {manifest : Manifest} {base : String} {start tree : FileTree}
variable {schedule turns turns' : List Nat} {i k count : Nat} {entry : Manifest.Entry}
variable {place : List String} {progress : Progress (List String)} {script : Script}

/-! Every entry is done -/

theorem count_inOrder (h : i < count) : (inOrder count).count i = 4 := by
  unfold inOrder
  induction count with
  | zero => contradiction
  | succ count ih =>
    rw [List.range_succ, List.flatMap_append, List.count_append]
    by_cases hi : i = count
    · subst hi
      have hrange : List.count i ((List.range i).flatMap fun i => [i, i, i, i]) = 0 := by
        rw [List.count_eq_zero]
        simp
      simp [hrange]
    · rw [ih (by omega)]
      simp [Ne.symm hi]

theorem four_le_count (schedule : List Nat) (h : i < count) :
    4 ≤ (schedule ++ inOrder count).count i := by
  rw [List.count_append, count_inOrder h]
  exact Nat.le_add_left 4 _

theorem History.exists_outcome (h : History manifest base start turns progress tree)
    (hi : manifest.programs[i]? = some entry) (hturns : 4 ≤ turns.count i) :
    ∃ first third, Finds manifest base start turns i 0 first ∧
      Finds manifest base start turns i 2 third ∧
      progress.stage? i = some (outcome manifest base entry first third) ∧
      progress.touches.filter (·.entry = i) =
        Touch.all i (openedFor? manifest base entry first third) := by
  rw [← h.entries_eq, List.getElem?_map, Option.map_eq_some_iff] at hi
  obtain ⟨job, hjob, rfl⟩ := hi
  obtain ⟨first, third, hfirst, hthird, hstage, htouches⟩ :=
    (h.comes i job hjob).exists_outcome hturns
  refine ⟨first, third, hfirst, hthird, ?_, htouches⟩
  rw [Progress.stage?, hjob, ← hstage]
  rfl

theorem Finds.eq {tree' : FileTree} (h : Finds manifest base start turns i k tree)
    (h' : Finds manifest base start turns i k tree') : tree = tree' := by
  obtain ⟨before, hbefore, hcount, rfl⟩ := h
  obtain ⟨before', hbefore', hcount', rfl⟩ := h'
  -- Of two different prefixes the longer one has more turns of the entry.
  have heq : before ++ [i] = before' ++ [i] := by
    rcases List.prefix_or_prefix_of_prefix hbefore hbefore' with hshort | hshort
    · rcases List.prefix_concat_iff.mp hshort with heq | hshort
      · exact heq
      · have hle := hshort.sublist.count_le i
        rw [List.count_append, List.count_singleton_self] at hle
        omega
    · rcases List.prefix_concat_iff.mp hshort with heq | hshort
      · exact heq.symm
      · have hle := hshort.sublist.count_le i
        rw [List.count_append, List.count_singleton_self] at hle
        omega
  rw [List.append_cancel_right heq]

/-! Entries that open a file -/

theorem openedFor?_eq_some_iff {first third : FileTree} :
    openedFor? manifest base entry first third = some script ↔
      ∃ text place opened, first.readText (Manifest.graphPath base entry) = .ok text ∧
        Script.compileText text = .ok script ∧
        third.create (manifest.scriptPath base entry) = .ok (place, opened) := by
  unfold openedFor?
  cases first.readText (Manifest.graphPath base entry) with
  | error e => simp [Except.toOption]
  | ok text =>
    cases hcompile : Script.compileText text with
    | error e => simp [Except.toOption, hcompile]
    | ok compiled =>
      rcases third.create (manifest.scriptPath base entry) with e | ⟨place, opened⟩
      · simp [Except.toOption]
      · simp [Except.toOption, hcompile]

theorem Touch.mem_all {touch : Touch} {script? : Option Script}
    (h : touch ∈ Touch.all i script?) :
    ∃ script, script? = some script ∧ (touch = .emptied i ∨ touch = .written i script) := by
  cases script? with
  | none => contradiction
  | some script => exact ⟨script, rfl, by simpa [Touch.all] using h⟩

theorem replay_of_forall_ne {touches : List Touch}
    (h : ∀ touch ∈ touches, scriptPlace? manifest base start touch.entry ≠ some place) :
    replay manifest base start place touches = start.find? place := by
  unfold replay
  rw [List.filter_eq_nil_iff.mpr (by simpa using h)]
  rfl

theorem History.opened_of_mem (h : History manifest base start turns progress tree)
    (hturns : ∀ i < manifest.programs.length, 4 ≤ turns.count i) {touch : Touch}
    (hmem : touch ∈ progress.touches) :
    ∃ entry first third script, manifest.programs[touch.entry]? = some entry ∧
      Finds manifest base start turns touch.entry 0 first ∧
      Finds manifest base start turns touch.entry 2 third ∧
      openedFor? manifest base entry first third = some script ∧
      progress.stage? touch.entry = some (outcome manifest base entry first third) ∧
      (touch = .emptied touch.entry ∨ touch = .written touch.entry script) := by
  have hlt := h.known touch hmem
  obtain ⟨first, third, hfirst, hthird, hstage, htouches⟩ :=
    h.exists_outcome (List.getElem?_eq_getElem hlt) (hturns _ hlt)
  have hall : touch ∈ progress.touches.filter (·.entry = touch.entry) :=
    List.mem_filter.mpr ⟨hmem, decide_eq_true rfl⟩
  rw [htouches] at hall
  obtain ⟨script, hscript, htouch⟩ := Touch.mem_all hall
  exact ⟨_, first, third, script, List.getElem?_eq_getElem hlt, hfirst, hthird, hscript, hstage,
    htouch⟩

theorem History.changes (h : History manifest base start turns progress tree)
    (hturns : ∀ i < manifest.programs.length, 4 ≤ turns.count i)
    (hplace : tree.find? place ≠ start.find? place) :
    ∃ i entry first text script, manifest.programs[i]? = some entry ∧
      start.filePlace? (manifest.scriptPath base entry) = some place ∧
      Finds manifest base start turns i 0 first ∧
      first.readText (Manifest.graphPath base entry) = .ok text ∧
      Script.compileText text = .ok script := by
  rw [h.files place] at hplace
  -- Some touch is of this place, since nothing changes otherwise.
  by_contra hnone
  apply hplace
  apply replay_of_forall_ne
  intro touch hmem hscript
  obtain ⟨entry, first, third, script, hentry, hfirst, -, hopened, -, -⟩ :=
    h.opened_of_mem hturns hmem
  obtain ⟨text, file, opened, hread, hcompile, -⟩ := openedFor?_eq_some_iff.mp hopened
  rw [scriptPlace?, hentry, Option.bind_some] at hscript
  exact hnone ⟨touch.entry, entry, first, text, script, hentry, hscript, hfirst, hread, hcompile⟩

theorem accept_of_outcome {first third opened : FileTree} {text : String}
    (hread : first.readText (Manifest.graphPath base entry) = .ok text)
    (hcompile : Script.compileText text = .ok script)
    (hcreate : third.create (manifest.scriptPath base entry) = .ok (place, opened))
    (h : ∀ failure, outcome manifest base entry first third ≠ .failed failure) :
    (third.accept place (.ofText script.source)).1 = .ofText script.source := by
  unfold outcome at h
  rw [hread] at h
  dsimp only at h
  rw [hcompile] at h
  dsimp only at h
  rw [FileTree.write_eq hcreate] at h
  apply FileTree.accept_eq_of_ok
  cases haccept : (third.accept place (.ofText script.source)).2 with
  | error e =>
    rw [haccept] at h
    exact absurd rfl (h _)
  | ok done => rfl

theorem History.wholes (h : History manifest base start turns progress tree)
    (hturns : ∀ i < manifest.programs.length, 4 ≤ turns.count i) {before between later : List Touch}
    (htouches : progress.touches = before ++ .emptied i :: (between ++ .written i script :: later))
    (hplace : scriptPlace? manifest base start i = some place)
    (halone : ∀ touch ∈ between ++ later,
      scriptPlace? manifest base start touch.entry ≠ some place)
    (hfailure : ∀ failure, progress.stage? i ≠ some (.failed failure)) :
    ∃ entry first text, manifest.programs[i]? = some entry ∧
      Finds manifest base start turns i 0 first ∧
      first.readText (Manifest.graphPath base entry) = .ok text ∧
      Script.compileText text = .ok script ∧
      tree.find? place = some (.file (.ofText script.source)) := by
  have hmem : .written i script ∈ progress.touches := by
    rw [htouches]
    simp
  obtain ⟨entry, first, third, script', hentry, hfirst, hthird, hopened, hstage, hwritten⟩ :=
    h.opened_of_mem hturns hmem
  obtain rfl : script = script' := by simpa using hwritten
  obtain ⟨text, file, opened, hread, hcompile, hcreate⟩ := openedFor?_eq_some_iff.mp hopened
  refine ⟨entry, first, text, hentry, hfirst, hread, hcompile, ?_⟩
  -- The entry finds its file where it was at the start, and the file takes the whole script.
  have hfile : file = place := by
    rw [Touch.entry_written] at hentry
    rw [scriptPlace?, hentry, Option.bind_some, ← hthird.sameDirectories.filePlace?_eq,
      (FileTree.create_eq_ok hcreate).1, Option.some.injEq] at hplace
    exact hplace
  subst hfile
  have haccept : (start.accept file (.ofText script.source)).1 = .ofText script.source := by
    rw [← FileTree.accept_congr hthird.sameDirectories.limits_eq]
    apply accept_of_outcome hread hcompile hcreate
    intro failure hfailed
    apply hfailure failure
    rw [← hfailed]
    exact hstage
  rw [List.forall_mem_append] at halone
  have hbetween : between.filter (fun touch =>
      scriptPlace? manifest base start touch.entry = some file) = [] :=
    List.filter_eq_nil_iff.mpr (by simpa using halone.1)
  have hlater : later.filter (fun touch =>
      scriptPlace? manifest base start touch.entry = some file) = [] :=
    List.filter_eq_nil_iff.mpr (by simpa using halone.2)
  rw [h.files, replay, htouches]
  simp [hplace, hbetween, hlater, Touch.apply, FileTree.Item.overwrite, haccept]

/-! Entries that open no file -/

theorem prefix_touches (h : turns <+: turns') :
    (after manifest base start turns).1.touches <+:
      (after manifest base start turns').1.touches := by
  obtain ⟨more, rfl⟩ := h
  induction more using List.reverseRecOn with
  | nil => simp
  | append_singleton more i ih =>
    rw [← List.append_assoc, after_concat]
    rcases turn_cases manifest base _ _ i with
      ⟨-, hrun⟩ | ⟨job, events, stage, tree', -, -, -, hrun⟩
    · rw [hrun]
      exact ih
    · rw [hrun]
      exact ih.trans (List.prefix_append _ _)

theorem after_concat_of_forall_ne {before : List Nat} (h : before ++ [i] <+: turns)
    (hi : ∀ touch ∈ (after manifest base start turns).1.touches, touch.entry ≠ i) :
    (after manifest base start (before ++ [i])).2 = (after manifest base start before).2 := by
  -- What the entry does in this turn would still be among the touches at the end.
  have hturn : ∀ touch ∈ (after manifest base start (before ++ [i])).1.touches,
      touch.entry ≠ i := fun touch hmem => hi touch ((prefix_touches h).subset hmem)
  rw [after_concat] at hturn ⊢
  rcases turn_cases manifest base (after manifest base start before).1
    (after manifest base start before).2 i with
    ⟨-, hrun⟩ | ⟨job, events, stage, tree', -, hadvances, -, hrun⟩
  · rw [hrun]
  · rw [hrun] at hturn ⊢
    rcases hadvances.cases_tree with
      ⟨rfl, -⟩ | ⟨text, script, place, hstage, rfl, -⟩ | ⟨text, script, place, hstage, -⟩
    · rfl
    · exact absurd rfl (hturn (.emptied i) (by simp [Progress.record, hstage, Stage.touch?]))
    · exact absurd rfl (hturn (.written i script) (by simp [Progress.record, hstage, Stage.touch?]))

theorem after_concat_of_openedFor?_eq_none {first third : FileTree} {before : List Nat}
    (hturns : ∀ i < manifest.programs.length, 4 ≤ turns.count i)
    (hentry : manifest.programs[i]? = some entry)
    (hfirst : Finds manifest base start turns i 0 first)
    (hthird : Finds manifest base start turns i 2 third)
    (hopened : openedFor? manifest base entry first third = none)
    (h : before ++ [i] <+: turns) :
    (after manifest base start (before ++ [i])).2 = (after manifest base start before).2 := by
  obtain ⟨hi, -⟩ := List.getElem?_eq_some_iff.mp hentry
  obtain ⟨first', third', hfirst', hthird', -, htouches⟩ :=
    (history_after manifest base start turns).exists_outcome hentry (hturns i hi)
  rw [hfirst'.eq hfirst, hthird'.eq hthird, hopened] at htouches
  apply after_concat_of_forall_ne h
  simpa [Touch.all] using htouches

/-! What is reported -/

theorem Stage.failure?_eq_none_iff {stage : Stage (List String)} :
    stage.failure? = none ↔ ∀ failure, stage ≠ .failed failure := by
  cases stage <;> simp [failure?]

theorem Progress.failures_eq_nil_iff :
    progress.failures = [] ↔ ∀ i failure, progress.stage? i ≠ some (.failed failure) := by
  unfold failures stage?
  rw [List.filterMap_eq_nil_iff]
  simp only [Stage.failure?_eq_none_iff]
  constructor
  · intro h i failure hstage
    rw [Option.map_eq_some_iff] at hstage
    obtain ⟨job, hjob, hfailed⟩ := hstage
    exact h job (List.mem_of_getElem? hjob) failure hfailed
  · intro h job hmem failure hfailed
    obtain ⟨i, hi⟩ := List.mem_iff_getElem?.mp hmem
    apply h i failure
    rw [hi, Option.map_some, hfailed]

theorem Report.error?_ofExports (total : Nat) (events : List Log.Event) (failures : List Failure) :
    (Report.ofExports total events failures).error? =
      if failures = [] then none else some (.failures failures.length total) := by
  unfold ofExports
  cases failures <;> rfl

theorem Report.failures_ofExports (total : Nat) (events : List Log.Event)
    (failures : List Failure) : (Report.ofExports total events failures).failures = failures := by
  unfold ofExports
  cases failures <;> rfl

theorem Report.filter_events_ofExports (total : Nat) {events : List Log.Event}
    (failures : List Failure) (h : ∀ event ∈ events, event.level ≠ .error) :
    (Report.ofExports total events failures).events.filter (·.level = .error) =
      failures.map failureEvent := by
  have hevents : events.filter (·.level = .error) = [] := by
    simpa using h
  have hfailures : (failures.map failureEvent).filter (·.level = .error) =
      failures.map failureEvent := by
    simp [failureEvent]
  cases failures with
  | nil => simp [ofExports, hevents, finishedEvent]
  | cons failure failures =>
    unfold ofExports
    rw [if_neg (by simp), List.filter_append, hevents, hfailures]
    rfl

theorem Report.print_off (report : Report) :
    report.print "off" = Text.unlines (report.error?.toList.map (·.message)) := by
  have hfilter : Log.Filter.ofText "off" = (⟨[⟨none, 0⟩], none⟩, []) := rfl
  have hshows : Log.Filter.shows ⟨[⟨none, 0⟩], none⟩ = fun _ => false := by
    funext event
    cases event with
    | mk level target message => cases level <;> rfl
  unfold print
  rw [hfilter]
  simp [hshows, Text.unlines]

/-! The effects of a run -/

theorem effects_after (h : ∀ i < manifest.programs.length, 4 ≤ turns.count i) :
    Effects manifest base start turns (after manifest base start turns).1
      (.ofExports manifest.programs.length (after manifest base start turns).1.events
        (after manifest base start turns).1.failures)
      (after manifest base start turns).2 := by
  have hhistory := history_after manifest base start turns
  exact {
    entries_eq := hhistory.entries_eq
    outcomes := by
      intro i entry hentry
      obtain ⟨hi, -⟩ := List.getElem?_eq_some_iff.mp hentry
      exact hhistory.exists_outcome hentry (h i hi)
    known := hhistory.known
    files := hhistory.files
    changes := fun place hplace => hhistory.changes h hplace
    keeps := by
      intro i entry first third hentry hfirst hthird hopened before hbefore
      exact after_concat_of_openedFor?_eq_none h hentry hfirst hthird hopened hbefore
    wholes := by
      intro i before between later script place htouches hplace halone hfailure
      exact hhistory.wholes h htouches hplace halone hfailure
    workDir_eq := hhistory.sameDirectories.workDir_eq
    limits_eq := hhistory.sameDirectories.limits_eq
    succeeds_iff := by
      rw [Report.error?_ofExports, ← Progress.failures_eq_nil_iff]
      split <;> simp_all
    failures_eq := Report.failures_ofExports _ _ _
    errors_eq := by
      intro filter
      rw [← Report.filter_events_ofExports manifest.programs.length _ hhistory.level_ne]
      simp only [List.filter_filter, Bool.and_comm]
    message_eq := by
      intro error herror
      rw [Report.error?_ofExports] at herror
      split at herror
      · contradiction
      · cases herror
        rfl }

theorem run_runManifest (schedule : List Nat) (manifest : Manifest) (base : String)
    (tree : FileTree) :
    (runManifest FileTree.files (exportInterleaved FileTree.files schedule) manifest
      base).run tree =
      match (FileTree.files.makeDirs (manifest.outPath base)).run tree with
      | (.error error, start) => (⟨[], [], some (.noDirectory error)⟩, start)
      | (.ok (), start) =>
        let turns := schedule ++ inOrder manifest.programs.length
        (.ofExports manifest.programs.length (after manifest base start turns).1.events
          (after manifest base start turns).1.failures, (after manifest base start turns).2) := by
  unfold runManifest
  rw [FileTree.run_bind]
  rcases (FileTree.files.makeDirs (manifest.outPath base)).run tree with ⟨error | ⟨⟩, start⟩ <;> rfl

theorem run_runWith (schedule : List Nat) (args : List String) (tree : FileTree) :
    let path := args.head?.getD defaultManifest
    (runWith FileTree.files (exportInterleaved FileTree.files schedule) args).run tree =
      match tree.readText path with
      | .error error => (⟨[], [], some (.unreadableManifest path error)⟩, tree)
      | .ok text =>
        match Manifest.parse text with
        | .error error => (⟨[], [], some (.malformedManifest error)⟩, tree)
        | .ok manifest =>
          (runManifest FileTree.files (exportInterleaved FileTree.files schedule) manifest
            ((Path.parent? path).getD ".")).run tree := by
  unfold runWith
  dsimp only
  rw [FileTree.run_bind, FileTree.run_readText]
  dsimp only
  cases tree.readText (args.head?.getD defaultManifest) with
  | error error => rfl
  | ok text =>
    dsimp only
    cases Manifest.parse text <;> rfl

theorem run_runWith_of_parse {path text : String} {manifest : Manifest} {tree' : FileTree}
    (hread : tree.readText path = .ok text) (hparse : Manifest.parse text = .ok manifest)
    (hbase : (Path.parent? path).getD "." = base)
    (hout : tree.isDirectory (manifest.outPath base) = true)
    (hafter : after manifest base tree (schedule ++ inOrder manifest.programs.length) =
      (progress, tree')) :
    (runWith FileTree.files (exportInterleaved FileTree.files schedule) [path]).run tree =
      (.ofExports manifest.programs.length progress.events progress.failures, tree') := by
  rw [run_runWith, List.head?_cons, Option.getD_some, hread]
  dsimp only
  rw [hparse]
  dsimp only
  rw [hbase, run_runManifest, FileTree.run_makeDirs hout]
  dsimp only
  rw [hafter]

theorem run_effects (schedule : List Nat) (args : List String) (tree : FileTree) :
    run FileTree.files = runWith FileTree.files (exportInterleaved FileTree.files []) ∧
    let path := args.head?.getD defaultManifest
    let base := (Path.parent? path).getD "."
    let (report, tree') :=
      (runWith FileTree.files (exportInterleaved FileTree.files schedule) args).run tree
    match tree.readText path with
    | .error error => report = ⟨[], [], some (.unreadableManifest path error)⟩ ∧ tree' = tree
    | .ok text =>
      match Manifest.parse text with
      | .error error => report = ⟨[], [], some (.malformedManifest error)⟩ ∧ tree' = tree
      | .ok manifest =>
        let (made, start) := (FileTree.files.makeDirs (manifest.outPath base)).run tree
        tree.MoreDirectories start ∧
          match made with
          | .error error => report = ⟨[], [], some (.noDirectory error)⟩ ∧ tree' = start
          | .ok () =>
            let turns := schedule ++ inOrder manifest.programs.length
            Effects manifest base start turns (after manifest base start turns).1 report tree' := by
  refine ⟨run_eq_runWith _, ?_⟩
  dsimp only
  rw [run_runWith]
  generalize args.head?.getD defaultManifest = path
  generalize (Path.parent? path).getD "." = base
  cases tree.readText path with
  | error error => exact ⟨rfl, rfl⟩
  | ok text =>
    dsimp only
    cases Manifest.parse text with
    | error error => exact ⟨rfl, rfl⟩
    | ok manifest =>
      dsimp only
      rw [run_runManifest]
      have hmore := FileTree.AddsDirectories.makeDirs (manifest.outPath base) tree
      rcases hmade : (FileTree.files.makeDirs (manifest.outPath base)).run tree with
        ⟨error | ⟨⟩, start⟩
      · rw [hmade] at hmore
        exact ⟨hmore, rfl, rfl⟩
      · rw [hmade] at hmore
        exact ⟨hmore, effects_after fun i hi => four_le_count schedule hi⟩

/--
The first two entries have left in their file what is the script of neither. The third one has
failed, but its file is there. The filter hides the failure.
-/
theorem runWith_leaves_files_that_are_no_scripts :
    let (report, tree) :=
      (runWith FileTree.files
        (exportInterleaved FileTree.files [0, 0, 1, 1, 2, 2, 0, 1, 2, 0, 1, 2]) ["m"]).run Torn.tree
    report.failures = [.unwritable "generated/b.py" Torn.noSpace] ∧
      report.print "off" = "Error: 1 of 3 exports failed\n" ∧
      Torn.tree.find? ["generated", "b.py"] = none ∧
      tree.find? ["generated", "b.py"] = some (.file .empty) ∧
      ∀ text ∈ [Torn.long, Torn.short], ∀ script, Script.compileText text = .ok script →
        tree.find? ["generated", "a.py"] ≠ some (.file (.ofText script.source)) := by
  have hread : Torn.tree.readText "m" = .ok Torn.manifestText := FileTree.readText_of_read rfl
  have hbase : (Path.parent? "m").getD "." = "" := by
    cbv
  obtain ⟨progress, tree, hafter, hfailures, htorn, hcut⟩ := Torn.after_tree
  rw [run_runWith_of_parse hread Torn.parse_manifestText hbase (by decide) hafter]
  dsimp only
  rw [Report.failures_ofExports, Report.print_off, Report.error?_ofExports, hfailures,
    if_neg (List.cons_ne_nil _ _), hcut, htorn]
  refine ⟨rfl, by decide, rfl, rfl, ?_⟩
  intro text htext script hscript heq
  rw [Option.some.injEq, FileTree.Item.file.injEq] at heq
  rcases List.mem_pair.mp htext with rfl | rfl
  · rw [Torn.compileText_long, Except.ok.injEq] at hscript
    subst hscript
    exact Torn.overwrite_source_ne.1 heq
  · rw [Torn.compileText_short, Except.ok.injEq] at hscript
    subst hscript
    exact Torn.overwrite_source_ne.2 heq

end NetScript.Export
