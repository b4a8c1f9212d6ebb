import NetScript.Proofs.Export.Turns

/-!
This module contains what has happened after some turns. Every stage is explained by the trees that
the turns of its entry found, and every file by what the entries have done to it, in the order in
which they have done it.
-/

namespace NetScript.Export

/--
The tree that an entry finds when it has had the given number of turns.
-/
def Finds (manifest : Manifest) (base : String) (start : FileTree) (turns : List Nat) (i k : Nat)
    (tree : FileTree) : Prop :=
  ∃ before, before ++ [i] <+: turns ∧ before.count i = k ∧
    (after manifest base start before).2 = tree

/--
What becomes of an entry that reads its graph in one tree and writes its script to another one.
-/
def outcome (manifest : Manifest) (base : String) (entry : Manifest.Entry)
    (tree later : FileTree) : Stage (List String) :=
  match tree.readText (Manifest.graphPath base entry) with
  | .error error => .failed (.unreadable (Manifest.graphPath base entry) error)
  | .ok text =>
    match Script.compileText text with
    | .error error => .failed (.uncompilable entry.id error)
    | .ok script =>
      match later.write (manifest.scriptPath base entry) script.source with
      | .error error => .failed (.unwritable (manifest.scriptPath base entry) error)
      | .ok _ => .exported text script

/--
The script that an entry opens a file for, if it reads its graph in one tree and opens the file in
another one.
-/
def openedFor? (manifest : Manifest) (base : String) (entry : Manifest.Entry)
    (tree later : FileTree) : Option Script := do
  let text ← (tree.readText (Manifest.graphPath base entry)).toOption
  let script ← (Script.compileText text).toOption
  let _ ← (later.create (manifest.scriptPath base entry)).toOption
  return script

/--
What an entry does that is done, given the script that it has opened a file for.
-/
def Touch.all (i : Nat) : Option Script → List Touch
  | none => []
  | some script => [.emptied i, .written i script]

/--
How an entry comes to a stage in the given number of turns, and what it does to the file of its
script on the way.
-/
inductive Comes (manifest : Manifest) (base : String) (start : FileTree) (turns : List Nat)
    (i : Nat) (entry : Manifest.Entry) : Nat → Stage (List String) → List Touch → Prop
  | none : Comes manifest base start turns i entry 0 .waiting []
  | read {tree tree' : FileTree} {stage : Stage (List String)}
      (h : Finds manifest base start turns i 0 tree)
      (hread : Advances manifest base entry .waiting tree stage tree') :
      Comes manifest base start turns i entry 1 stage []
  | compile {tree tree' later later' : FileTree} {stage stage' : Stage (List String)}
      (h : Finds manifest base start turns i 0 tree)
      (hread : Advances manifest base entry .waiting tree stage tree')
      (hcompile : Advances manifest base entry stage later stage' later') :
      Comes manifest base start turns i entry 2 stage' []
  | opens {tree tree' middle middle' later later' : FileTree}
      {stage stage' stage'' : Stage (List String)}
      (h : Finds manifest base start turns i 0 tree)
      (hlater : Finds manifest base start turns i 2 later)
      (hread : Advances manifest base entry .waiting tree stage tree')
      (hcompile : Advances manifest base entry stage middle stage' middle')
      (hopen : Advances manifest base entry stage' later stage'' later') :
      Comes manifest base start turns i entry 3 stage'' (stage'.touch? i stage'').toList
  | done {tree later : FileTree} (more : Nat)
      (h : Finds manifest base start turns i 0 tree)
      (hlater : Finds manifest base start turns i 2 later) :
      Comes manifest base start turns i entry (more + 4) (outcome manifest base entry tree later)
        (Touch.all i (openedFor? manifest base entry tree later))

def scriptPlace? (manifest : Manifest) (base : String) (tree : FileTree) (i : Nat) :
    Option (List String) :=
  manifest.programs[i]?.bind fun entry => tree.filePlace? (manifest.scriptPath base entry)

/--
What a touch of a place makes of the item that is there.
-/
def Touch.apply (tree : FileTree) (place : List String) (item? : Option FileTree.Item) :
    Touch → Option FileTree.Item
  | emptied _ => some (.file .empty)
  | written _ script => item?.map (·.overwrite (tree.accept place (.ofText script.source)).1)

/--
What is at a place after the touches, one after the other, of which most are of other places.
-/
def replay (manifest : Manifest) (base : String) (start : FileTree) (place : List String)
    (touches : List Touch) : Option FileTree.Item :=
  (touches.filter fun touch => scriptPlace? manifest base start touch.entry = some place).foldl
    (Touch.apply start place) (start.find? place)

/--
What holds after some turns.
-/
structure History (manifest : Manifest) (base : String) (start : FileTree) (turns : List Nat)
    (progress : Progress (List String)) (tree : FileTree) : Prop where
  entries_eq : progress.jobs.map (·.entry) = manifest.programs
  comes : ∀ i job, progress.jobs[i]? = some job →
    Comes manifest base start turns i job.entry (turns.count i) job.stage
      (progress.touches.filter (·.entry = i))
  known : ∀ touch ∈ progress.touches, touch.entry < manifest.programs.length
  handle_eq : ∀ i text script place, progress.stage? i = some (.opened text script place) →
    scriptPlace? manifest base start i = some place
  sameDirectories : start.SameDirectories tree
  files : ∀ place, tree.find? place = replay manifest base start place progress.touches
  level_ne : ∀ event ∈ progress.events, event.level ≠ .error

variable {manifest : Manifest} {base : String} {start tree later tree' later' : FileTree}
variable {turns turns' : List Nat} {i k : Nat} {entry : Manifest.Entry} {place : List String}
variable {stage stage' : Stage (List String)} {touches : List Touch}

theorem Finds.mono (h : Finds manifest base start turns i k tree) (hturns : turns <+: turns') :
    Finds manifest base start turns' i k tree := by
  obtain ⟨before, hbefore, hcount, htree⟩ := h
  exact ⟨before, hbefore.trans hturns, hcount, htree⟩

theorem Finds.now (manifest : Manifest) (base : String) (start : FileTree) (turns : List Nat)
    (i : Nat) :
    Finds manifest base start (turns ++ [i]) i (turns.count i)
      (after manifest base start turns).2 :=
  ⟨turns, List.prefix_refl _, rfl, rfl⟩

theorem sameDirectories_after (manifest : Manifest) (base : String) (start : FileTree)
    (turns : List Nat) : start.SameDirectories (after manifest base start turns).2 := by
  induction turns using List.reverseRecOn with
  | nil => exact .refl start
  | append_singleton turns i ih =>
    rw [after_concat]
    rcases turn_cases manifest base _ _ i with
      ⟨-, hrun⟩ | ⟨job, events, stage, tree', -, hadvances, -, hrun⟩
    · rw [hrun]
      exact ih
    · rw [hrun]
      exact ih.trans hadvances.sameDirectories

theorem Finds.sameDirectories (h : Finds manifest base start turns i k tree) :
    start.SameDirectories tree := by
  obtain ⟨before, -, -, rfl⟩ := h
  exact sameDirectories_after manifest base start before

theorem Stage.entry_of_touch? {touch : Touch} (h : stage.touch? i stage' = some touch) :
    touch.entry = i := by
  unfold touch? at h
  split at h
  · cases h
    rfl
  · cases h
    rfl
  · contradiction

theorem Advances.touch?_of_read (h : Advances manifest base entry .waiting tree stage tree') :
    stage.touch? i stage' = none := by
  cases h with
  | stay hdone => contradiction
  | _ => rfl

theorem isDone_outcome (manifest : Manifest) (base : String) (entry : Manifest.Entry)
    (tree later : FileTree) : (outcome manifest base entry tree later).isDone = true := by
  unfold outcome
  split
  · rfl
  · split
    · rfl
    · split <;> rfl

theorem Advances.outcome_eq {middle middle' last last' : FileTree}
    {first second third fourth : Stage (List String)}
    (hread : Advances manifest base entry .waiting tree first tree')
    (hcompile : Advances manifest base entry first middle second middle')
    (hopen : Advances manifest base entry second later third later')
    (hwrite : Advances manifest base entry third last fourth last')
    (hlimits : last.limits = later.limits) :
    fourth = outcome manifest base entry tree later ∧
      (second.touch? i third).toList ++ (third.touch? i fourth).toList =
        Touch.all i (openedFor? manifest base entry tree later) := by
  unfold outcome openedFor?
  -- A turn that fails is the last one that does anything.
  cases hread with
  | unreadable h =>
    have hsecond := hcompile.eq_of_done rfl
    subst hsecond
    have hthird := hopen.eq_of_done rfl
    subst hthird
    rw [hwrite.eq_of_done rfl, h]
    exact ⟨rfl, rfl⟩
  | load h =>
    rw [h]
    cases hcompile with
    | uncompilable hscript =>
      have hthird := hopen.eq_of_done rfl
      subst hthird
      rw [hwrite.eq_of_done rfl]
      dsimp only [Except.toOption, bind, Option.bind]
      rw [hscript]
      exact ⟨rfl, rfl⟩
    | compile hscript =>
      dsimp only [Except.toOption, bind, Option.bind]
      rw [hscript]
      cases hopen with
      | shut hcreate =>
        rw [hwrite.eq_of_done rfl]
        dsimp only
        rw [FileTree.write_eq_error hcreate, hcreate]
        exact ⟨rfl, rfl⟩
      | opens hcreate =>
        dsimp only
        rw [FileTree.write_eq hcreate, hcreate]
        cases hwrite with
        | cut haccept =>
          rw [FileTree.accept_congr hlimits] at haccept
          rw [haccept]
          exact ⟨rfl, rfl⟩
        | write haccept =>
          rw [FileTree.accept_congr hlimits] at haccept
          rw [haccept]
          exact ⟨rfl, rfl⟩
        | stay hdone => contradiction
      | stay hdone => contradiction
    | stay hdone => contradiction
  | stay hdone => contradiction

namespace Comes

theorem mono (h : Comes manifest base start turns i entry k stage touches)
    (hturns : turns <+: turns') : Comes manifest base start turns' i entry k stage touches := by
  cases h with
  | none => exact .none
  | read h hread => exact .read (h.mono hturns) hread
  | compile h hread hcompile => exact .compile (h.mono hturns) hread hcompile
  | opens h hlater hread hcompile hopen =>
    exact .opens (h.mono hturns) (hlater.mono hturns) hread hcompile hopen
  | done more h hlater => exact .done more (h.mono hturns) (hlater.mono hturns)

theorem next (h : Comes manifest base start turns i entry k stage touches)
    (hturns : turns <+: turns') (hfinds : Finds manifest base start turns' i k tree)
    (hadvances : Advances manifest base entry stage tree stage' tree') :
    Comes manifest base start turns' i entry (k + 1) stage'
      (touches ++ (stage.touch? i stage').toList) := by
  cases h with
  | none => exact .read hfinds hadvances
  | read h hread =>
    rw [hread.touch?_of_read]
    exact .compile (h.mono hturns) hread hadvances
  | compile h hread hcompile => exact .opens (h.mono hturns) hfinds hread hcompile hadvances
  | opens h hlater hread hcompile hopen =>
    have hlimits := hfinds.sameDirectories.limits_eq.trans hlater.sameDirectories.limits_eq.symm
    obtain ⟨rfl, htouches⟩ := hread.outcome_eq hcompile hopen hadvances hlimits
    rw [htouches]
    exact .done 0 (h.mono hturns) (hlater.mono hturns)
  | @done first third more h hlater =>
    have hdone := isDone_outcome manifest base entry first third
    rw [hadvances.eq_of_done hdone, Stage.touch?_of_isDone hdone, Option.toList_none,
      List.append_nil]
    exact .done (more + 1) (h.mono hturns) (hlater.mono hturns)

theorem exists_outcome (h : Comes manifest base start turns i entry k stage touches)
    (hk : 4 ≤ k) :
    ∃ tree later, Finds manifest base start turns i 0 tree ∧
      Finds manifest base start turns i 2 later ∧
      stage = outcome manifest base entry tree later ∧
      touches = Touch.all i (openedFor? manifest base entry tree later) := by
  cases h with
  | done more h hlater => exact ⟨_, _, h, hlater, rfl, rfl⟩
  | _ => omega

theorem eq_nil (h : Comes manifest base start turns i entry k stage touches) (hk : k < 3) :
    touches = [] := by
  cases h with
  | opens h hlater hread hcompile hopen => omega
  | done more h hlater => omega
  | _ => rfl

end Comes

theorem replay_append (touch : Touch)
    (h : scriptPlace? manifest base start touch.entry = some place) (other : List String)
    (touches : List Touch) :
    replay manifest base start other (touches ++ [touch]) =
      if place = other then touch.apply start other (replay manifest base start other touches)
      else replay manifest base start other touches := by
  unfold replay
  rw [List.filter_append, List.foldl_append]
  split
  · next heq => simp [h, heq]
  · next hne => simp [h, hne]

namespace History

variable {progress : Progress (List String)} {job : Job (List String)} {events : List Log.Event}

theorem init (manifest : Manifest) (base : String) (start : FileTree) :
    History manifest base start [] (.start manifest) start where
  entries_eq := by simp [Progress.start, List.map_map, Function.comp_def]
  comes := by
    intro i job hjob
    simp only [Progress.start, List.getElem?_map, Option.map_eq_some_iff] at hjob
    obtain ⟨entry, -, rfl⟩ := hjob
    exact .none
  known := List.forall_mem_nil _
  handle_eq := by
    intro i text script place hstage
    simp [Progress.start, Progress.stage?] at hstage
  sameDirectories := .refl start
  files := fun place => rfl
  level_ne := List.forall_mem_nil _

variable (h : History manifest base start turns progress tree)

include h

theorem entry_eq (hjob : progress.jobs[i]? = some job) :
    manifest.programs[i]? = some job.entry := by
  rw [← h.entries_eq, List.getElem?_map, hjob]
  rfl

theorem comes_record (hjob : progress.jobs[i]? = some job)
    (htree : (after manifest base start turns).2 = tree)
    (hadvances : Advances manifest base job.entry job.stage tree stage tree') :
    ∀ k job', (progress.record i job events stage).jobs[k]? = some job' →
      Comes manifest base start (turns ++ [i]) k job'.entry ((turns ++ [i]).count k) job'.stage
        ((progress.record i job events stage).touches.filter (·.entry = k)) := by
  intro k job' hjob'
  rw [Progress.getElem?_jobs_record hjob] at hjob'
  rw [Progress.record, List.filter_append]
  split at hjob'
  · next hk =>
    subst hk
    cases hjob'
    have hown : (job.stage.touch? k stage).toList.filter (·.entry = k) =
        (job.stage.touch? k stage).toList := by
      rw [List.filter_eq_self]
      intro touch htouch
      rw [decide_eq_true_eq]
      exact Stage.entry_of_touch? (Option.mem_toList.mp htouch)
    rw [List.count_append, List.count_singleton_self, hown]
    apply (h.comes k job hjob).next (List.prefix_append turns [k]) _ hadvances
    rw [← htree]
    exact .now manifest base start turns k
  · next hk =>
    have hother : (job.stage.touch? i stage).toList.filter (·.entry = k) = [] := by
      rw [List.filter_eq_nil_iff]
      intro touch htouch
      rw [Stage.entry_of_touch? (Option.mem_toList.mp htouch), decide_eq_true_eq]
      exact Ne.symm hk
    rw [List.count_append, List.count_singleton, if_neg (by simpa using Ne.symm hk), hother,
      List.append_nil]
    exact (h.comes k job' hjob').mono (List.prefix_append turns [i])

theorem known_record (hjob : progress.jobs[i]? = some job) :
    ∀ touch ∈ (progress.record i job events stage).touches,
      touch.entry < manifest.programs.length := by
  refine List.forall_mem_append.mpr ⟨h.known, fun touch htouch => ?_⟩
  rw [Stage.entry_of_touch? (Option.mem_toList.mp htouch)]
  obtain ⟨hi, -⟩ := List.getElem?_eq_some_iff.mp (h.entry_eq hjob)
  exact hi

theorem scriptPlace?_of_create {opened : FileTree} (hjob : progress.jobs[i]? = some job)
    (hcreate : tree.create (manifest.scriptPath base job.entry) = .ok (place, opened)) :
    scriptPlace? manifest base start i = some place := by
  rw [scriptPlace?, h.entry_eq hjob, Option.bind_some, ← h.sameDirectories.filePlace?_eq]
  exact (FileTree.create_eq_ok hcreate).1

theorem handle_eq_record (hjob : progress.jobs[i]? = some job)
    (hadvances : Advances manifest base job.entry job.stage tree stage tree') :
    ∀ k text script place,
      (progress.record i job events stage).stage? k = some (.opened text script place) →
        scriptPlace? manifest base start k = some place := by
  intro k text script place hstage
  rw [Progress.stage?_record hjob] at hstage
  split at hstage
  · next hk =>
    cases hstage
    subst hk
    generalize job.stage = before at hadvances
    cases hadvances with
    | opens hcreate => exact h.scriptPlace?_of_create hjob hcreate
    | stay hdone => contradiction
  · exact h.handle_eq k text script place hstage

theorem files_record (hjob : progress.jobs[i]? = some job)
    (hadvances : Advances manifest base job.entry job.stage tree stage tree')
    (place : List String) :
    tree'.find? place =
      replay manifest base start place (progress.record i job events stage).touches := by
  have hfiles := h.files place
  unfold Progress.record
  rcases hadvances.cases_tree with
    ⟨rfl, hquiet⟩ | ⟨text, script, file, hstage, rfl, hcreate⟩ | ⟨text, script, file, hstage, rfl⟩
  · rw [hquiet, Option.toList_none, List.append_nil]
    exact hfiles
  · have hplace := h.scriptPlace?_of_create hjob hcreate
    obtain ⟨-, rfl⟩ := FileTree.create_eq_ok hcreate
    rw [hstage]
    show _ = replay manifest base start place (progress.touches ++ [.emptied i])
    rw [replay_append (.emptied i) hplace]
    split
    · next heq =>
      subst heq
      exact FileTree.find?_insert_self _ _ _
    · next hne =>
      rw [FileTree.find?_insert_of_ne _ _ (Ne.symm hne)]
      exact hfiles
  · have hplace : scriptPlace? manifest base start i = some file := by
      apply h.handle_eq i text script file
      rw [Progress.stage?, hjob, Option.map_some, hstage]
    rw [hstage]
    show _ = replay manifest base start place (progress.touches ++ [.written i script])
    rw [replay_append (.written i script) hplace]
    split
    · next heq =>
      subst heq
      rw [FileTree.find?_overwrite_self, hfiles, FileTree.accept_congr h.sameDirectories.limits_eq]
      rfl
    · next hne =>
      rw [FileTree.find?_overwrite_of_ne _ _ (Ne.symm hne)]
      exact hfiles

theorem record (hjob : progress.jobs[i]? = some job)
    (htree : (after manifest base start turns).2 = tree)
    (hevents : ∀ event ∈ events, event.level ≠ .error)
    (hadvances : Advances manifest base job.entry job.stage tree stage tree') :
    History manifest base start (turns ++ [i]) (progress.record i job events stage) tree' where
  entries_eq := (Progress.entries_record hjob events stage).trans h.entries_eq
  comes := h.comes_record hjob htree hadvances
  known := h.known_record hjob
  handle_eq := h.handle_eq_record hjob hadvances
  sameDirectories := h.sameDirectories.trans hadvances.sameDirectories
  files := h.files_record hjob hadvances
  level_ne := List.forall_mem_append.mpr ⟨h.level_ne, hevents⟩

theorem skip (hnone : progress.jobs[i]? = none) :
    History manifest base start (turns ++ [i]) progress tree where
  entries_eq := h.entries_eq
  comes := by
    intro k job hjob
    have hk : i ≠ k := by
      rintro rfl
      rw [hnone] at hjob
      contradiction
    rw [List.count_append, List.count_singleton, if_neg (by simpa using hk)]
    exact (h.comes k job hjob).mono (List.prefix_append turns [i])
  known := h.known
  handle_eq := h.handle_eq
  sameDirectories := h.sameDirectories
  files := h.files
  level_ne := h.level_ne

end History

theorem history_after (manifest : Manifest) (base : String) (start : FileTree) (turns : List Nat) :
    History manifest base start turns (after manifest base start turns).1
      (after manifest base start turns).2 := by
  -- Each turn finds the tree that those before it have left, so that the last one is split off.
  induction turns using List.reverseRecOn with
  | nil => exact .init manifest base start
  | append_singleton turns i ih =>
    rw [after_concat]
    rcases turn_cases manifest base _ _ i with
      ⟨hnone, hrun⟩ | ⟨job, events, stage, tree', hjob, hadvances, hevents, hrun⟩
    · rw [hrun]
      exact ih.skip hnone
    · rw [hrun]
      exact ih.record hjob rfl hevents hadvances

end NetScript.Export
