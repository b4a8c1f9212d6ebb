import NetScript.Proofs.Export.Effects

/-!
This module contains the confluence of an export. The main statement is that entries whose scripts
are not in the way of each other are exported with the same result in whatever order they have their
turns.
-/

namespace NetScript

namespace FileTree

/--
Whether the path neither names the place nor leads through it.
-/
def Avoids (tree : FileTree) (path : String) (place : List String) : Prop :=
  tree.filePlace? path ≠ some place ∧ place ∉ tree.passed path

instance (tree : FileTree) (path : String) (place : List String) :
    Decidable (tree.Avoids path place) :=
  inferInstanceAs (Decidable (_ ∧ _))

structure Same (tree tree' : FileTree) : Prop where
  workDir_eq : tree'.workDir = tree.workDir
  limits_eq : tree'.limits = tree.limits
  find?_eq : ∀ place, tree'.find? place = tree.find? place

end FileTree

namespace Manifest

variable (manifest : Manifest) (base : String) (tree : FileTree)

/--
Whether the script of an entry is aside from what another entry reads and writes.
-/
def KeepsClear (entry other : Entry) : Prop :=
  ∀ place ∈ tree.filePlace? (manifest.scriptPath base entry),
    tree.Avoids (manifest.scriptPath base other) place ∧ tree.Avoids (graphPath base other) place

instance (entry other : Entry) : Decidable (manifest.KeepsClear base tree entry other) :=
  inferInstanceAs (Decidable (∀ place ∈ tree.filePlace? (manifest.scriptPath base entry), _))

def IsIndependent : Prop :=
  manifest.programs.Pairwise fun entry other =>
    manifest.KeepsClear base tree entry other ∧ manifest.KeepsClear base tree other entry

instance : Decidable (manifest.IsIndependent base tree) :=
  inferInstanceAs (Decidable (List.Pairwise _ _))

end Manifest

namespace Export

variable {manifest : Manifest} {base : String} {start tree tree' : FileTree}
variable {turns turns' : List Nat} {i j k : Nat} {entry : Manifest.Entry} {place : List String}
variable {progress progress' : Progress (List String)} {path : String}

theorem avoids_of_isIndependent (h : manifest.IsIndependent base tree) (hij : i ≠ j)
    (hi : scriptPlace? manifest base tree i = some place)
    (hj : manifest.programs[j]? = some entry) :
    tree.Avoids (manifest.scriptPath base entry) place ∧
      tree.Avoids (Manifest.graphPath base entry) place := by
  obtain ⟨other, hother, hplace⟩ := Option.bind_eq_some_iff.mp hi
  obtain ⟨hilt, rfl⟩ := List.getElem?_eq_some_iff.mp hother
  obtain ⟨hjlt, rfl⟩ := List.getElem?_eq_some_iff.mp hj
  rcases Nat.lt_or_gt_of_ne hij with hlt | hlt
  · exact (List.pairwise_iff_getElem.mp h i j hilt hjlt hlt).1 place hplace
  · exact (List.pairwise_iff_getElem.mp h j i hjlt hilt hlt).2 place hplace

/-! What an entry finds -/

theorem History.find?_eq (h : History manifest base start turns progress tree)
    (hplace : ∀ touch ∈ progress.touches,
      scriptPlace? manifest base start touch.entry ≠ some place) :
    tree.find? place = start.find? place := by
  rw [h.files place]
  exact replay_of_forall_ne hplace

theorem History.locate_eq (h : History manifest base start turns progress tree)
    (hpath : ∀ touch ∈ progress.touches, ∀ place,
      scriptPlace? manifest base start touch.entry = some place → start.Avoids path place) :
    tree.locate path = start.locate path := by
  apply FileTree.locate_congr h.sameDirectories.workDir_eq
  · intro place hpassed
    apply h.find?_eq
    intro touch hmem hscript
    exact (hpath touch hmem place hscript).2 hpassed
  · intro place hlast
    -- No script is where a directory is, so that the path names a file if a script is there.
    by_cases hdirectory : start.find? place = some .directory
    · rw [hdirectory]
      exact (h.sameDirectories.directory_iff place).mpr hdirectory
    · apply h.find?_eq
      intro touch hmem hscript
      apply (hpath touch hmem place hscript).1
      exact FileTree.filePlace?_eq_some_iff.mpr ⟨hlast, hdirectory⟩

theorem entry_ne_of_count_lt (h : turns.count i < 3) :
    ∀ touch ∈ (after manifest base start turns).1.touches, touch.entry ≠ i := by
  rintro touch hmem rfl
  have hhistory := history_after manifest base start turns
  have hlt := hhistory.known touch hmem
  rw [← hhistory.entries_eq, List.length_map] at hlt
  have hnil := (hhistory.comes _ _ (List.getElem?_eq_getElem hlt)).eq_nil h
  rw [List.filter_eq_nil_iff] at hnil
  exact hnil touch hmem (decide_eq_true rfl)

theorem Finds.locate_eq (h : Finds manifest base start turns i k tree) (hk : k < 3)
    (hpath : ∀ j ≠ i, ∀ place, scriptPlace? manifest base start j = some place →
      start.Avoids path place) :
    tree.locate path = start.locate path := by
  obtain ⟨before, -, rfl, rfl⟩ := h
  apply (history_after manifest base start before).locate_eq
  intro touch hmem
  exact hpath touch.entry (entry_ne_of_count_lt hk touch hmem)

/-! What becomes of an entry -/

theorem outcome_congr {first first' third third' : FileTree}
    (hread : first.locate (Manifest.graphPath base entry) =
      first'.locate (Manifest.graphPath base entry))
    (hopen : third.locate (manifest.scriptPath base entry) =
      third'.locate (manifest.scriptPath base entry))
    (hlimits : third.limits = third'.limits) :
    outcome manifest base entry first third = outcome manifest base entry first' third' ∧
      openedFor? manifest base entry first third =
        openedFor? manifest base entry first' third' := by
  have htarget : third.target (manifest.scriptPath base entry) =
      third'.target (manifest.scriptPath base entry) := by
    rw [FileTree.target, FileTree.target, hopen]
  have htext : first.readText (Manifest.graphPath base entry) =
      first'.readText (Manifest.graphPath base entry) := by
    rw [FileTree.readText, FileTree.readText, FileTree.read_eq, FileTree.read_eq, hread]
  unfold outcome openedFor?
  rw [htext, FileTree.create_eq, FileTree.create_eq, htarget]
  constructor
  · split
    · rfl
    · split
      · rfl
      · next script hcompile =>
        cases hfile : third'.target (manifest.scriptPath base entry) with
        | error e =>
          rw [FileTree.write_eq_error (FileTree.create_of_target_error (htarget.trans hfile)),
            FileTree.write_eq_error (FileTree.create_of_target_error hfile)]
        | ok place =>
          rw [FileTree.write_eq (FileTree.create_of_target (htarget.trans hfile)),
            FileTree.write_eq (FileTree.create_of_target hfile), FileTree.accept_congr hlimits]
          cases (third'.accept place (.ofText script.source)).2 <;> rfl
  · cases third'.target (manifest.scriptPath base entry) <;> rfl

theorem exists_outcome_of_isIndependent (h : manifest.IsIndependent base start)
    (hturns : ∀ i < manifest.programs.length, 4 ≤ turns.count i)
    (hentry : manifest.programs[i]? = some entry) :
    (after manifest base start turns).1.stage? i = some (outcome manifest base entry start start) ∧
      (after manifest base start turns).1.touches.filter (·.entry = i) =
        Touch.all i (openedFor? manifest base entry start start) := by
  obtain ⟨hi, -⟩ := List.getElem?_eq_some_iff.mp hentry
  obtain ⟨first, third, hfirst, hthird, hstage, htouches⟩ :=
    (history_after manifest base start turns).exists_outcome hentry (hturns i hi)
  -- No other entry writes where this one looks for its graph or puts its script.
  have hread : first.locate (Manifest.graphPath base entry) =
      start.locate (Manifest.graphPath base entry) := by
    apply hfirst.locate_eq (by omega)
    intro j hj place hplace
    exact (avoids_of_isIndependent h hj hplace hentry).2
  have hopen : third.locate (manifest.scriptPath base entry) =
      start.locate (manifest.scriptPath base entry) := by
    apply hthird.locate_eq (by omega)
    intro j hj place hplace
    exact (avoids_of_isIndependent h hj hplace hentry).1
  obtain ⟨houtcome, hopened⟩ := outcome_congr hread hopen hthird.sameDirectories.limits_eq
  rw [hstage, htouches, houtcome, hopened]
  exact ⟨rfl, rfl⟩

theorem failures_eq_of_isIndependent (h : manifest.IsIndependent base start)
    (hturns : ∀ i < manifest.programs.length, 4 ≤ turns.count i) :
    (after manifest base start turns).1.failures =
      manifest.programs.filterMap fun entry =>
        (outcome manifest base entry start start).failure? := by
  have hhistory := history_after manifest base start turns
  have hstages : (after manifest base start turns).1.jobs.map (·.stage) =
      manifest.programs.map fun entry => outcome manifest base entry start start := by
    apply List.ext_getElem?
    intro i
    rw [List.getElem?_map, List.getElem?_map]
    cases hentry : manifest.programs[i]? with
    | none =>
      rw [← hhistory.entries_eq, List.getElem?_map, Option.map_eq_none_iff] at hentry
      rw [hentry]
      rfl
    | some entry => exact (exists_outcome_of_isIndependent h hturns hentry).1
  have hfailures := congrArg (List.filterMap Stage.failure?) hstages
  rw [List.filterMap_map, List.filterMap_map] at hfailures
  exact hfailures

/-! What is written -/

theorem filter_touches_of_isIndependent (h : manifest.IsIndependent base start)
    {touches : List Touch} (hknown : ∀ touch ∈ touches, touch.entry < manifest.programs.length)
    (hplace : scriptPlace? manifest base start i = some place) :
    touches.filter (fun touch => scriptPlace? manifest base start touch.entry = some place) =
      touches.filter (·.entry = i) := by
  apply List.filter_congr
  intro touch hmem
  rw [decide_eq_decide]
  constructor
  · intro hscript
    by_contra hne
    have hentry := List.getElem?_eq_getElem (hknown touch hmem)
    rw [scriptPlace?, hentry, Option.bind_some] at hscript
    exact (avoids_of_isIndependent h (Ne.symm hne) hplace hentry).1.1 hscript
  · rintro rfl
    exact hplace

theorem same_of_isIndependent (h : manifest.IsIndependent base start)
    (hturns : ∀ i < manifest.programs.length, 4 ≤ turns.count i)
    (hturns' : ∀ i < manifest.programs.length, 4 ≤ turns'.count i) :
    (after manifest base start turns).2.Same (after manifest base start turns').2 := by
  have hhistory := history_after manifest base start turns
  have hhistory' := history_after manifest base start turns'
  constructor
  · rw [hhistory.sameDirectories.workDir_eq, hhistory'.sameDirectories.workDir_eq]
  · rw [hhistory.sameDirectories.limits_eq, hhistory'.sameDirectories.limits_eq]
  · intro place
    rw [hhistory.files, hhistory'.files]
    by_cases hplace : ∃ i, scriptPlace? manifest base start i = some place
    · obtain ⟨i, hplace⟩ := hplace
      obtain ⟨entry, hentry, -⟩ := Option.bind_eq_some_iff.mp hplace
      -- A place is the script of one entry only, which does the same to it in any order.
      unfold replay
      rw [filter_touches_of_isIndependent h hhistory.known hplace,
        filter_touches_of_isIndependent h hhistory'.known hplace,
        (exists_outcome_of_isIndependent h hturns hentry).2,
        (exists_outcome_of_isIndependent h hturns' hentry).2]
    · rw [not_exists] at hplace
      rw [replay_of_forall_ne fun touch _ => hplace touch.entry,
        replay_of_forall_ne fun touch _ => hplace touch.entry]

/--
The entries may have their turns in any order.
-/
theorem runManifest_interleaved (schedule : List Nat) (manifest : Manifest) (base : String)
    (tree : FileTree)
    (h : manifest.IsIndependent base
      ((FileTree.files.makeDirs (manifest.outPath base)).run tree).2) :
    let interleaved :=
      (runManifest FileTree.files (exportInterleaved FileTree.files schedule) manifest
        base).run tree
    let sequential := (runManifest FileTree.files (exportAll FileTree.files) manifest base).run tree
    sequential.2.Same interleaved.2 ∧ interleaved.1.failures = sequential.1.failures ∧
      interleaved.1.error? = sequential.1.error? := by
  rw [← exportInterleaved_nil]
  dsimp only
  rw [run_runManifest, run_runManifest]
  rcases hmade : (FileTree.files.makeDirs (manifest.outPath base)).run tree with
    ⟨error | ⟨⟩, start⟩
  · exact ⟨⟨rfl, rfl, fun place => rfl⟩, rfl, rfl⟩
  · rw [hmade] at h
    have hinterleaved : ∀ i < manifest.programs.length,
        4 ≤ (schedule ++ inOrder manifest.programs.length).count i :=
      fun i hi => four_le_count schedule hi
    have hsequential : ∀ i < manifest.programs.length,
        4 ≤ ([] ++ inOrder manifest.programs.length).count i :=
      fun i hi => four_le_count [] hi
    have hfailures := (failures_eq_of_isIndependent h hinterleaved).trans
      (failures_eq_of_isIndependent h hsequential).symm
    refine ⟨same_of_isIndependent h hsequential hinterleaved, ?_, ?_⟩
    · dsimp only
      rw [Report.failures_ofExports, Report.failures_ofExports, hfailures]
    · dsimp only
      rw [Report.error?_ofExports, Report.error?_ofExports, hfailures]

/--
The second of the entries has no graph, and fails at the beginning of the schedule.
-/
theorem runManifest_interleaved_of_missing_graph :
    let manifest : Manifest := ⟨"out", [⟨"a", "a.json"⟩, ⟨"b", "b.json"⟩]⟩
    let tree : FileTree :=
      { items :=
          [ ([], .directory),
            (["out"], .directory),
            (["a.json"], .file (.ofText "\x7b\"nodes\":[],\"edges\":[]\x7d")) ]
        workDir := [] }
    manifest.IsIndependent "." ((FileTree.files.makeDirs (manifest.outPath ".")).run tree).2 ∧
      let interleaved :=
        (runManifest FileTree.files (exportInterleaved FileTree.files [1, 0, 0, 1]) manifest
          ".").run tree
      let sequential :=
        (runManifest FileTree.files (exportAll FileTree.files) manifest ".").run tree
      sequential.2.Same interleaved.2 ∧ interleaved.1.failures = sequential.1.failures ∧
        interleaved.1.error? = sequential.1.error? := by
  intro manifest tree
  have h : manifest.IsIndependent "."
      ((FileTree.files.makeDirs (manifest.outPath ".")).run tree).2 := by
    rw [FileTree.run_makeDirs (by decide)]
    decide
  exact ⟨h, runManifest_interleaved [1, 0, 0, 1] manifest "." tree h⟩

end Export

end NetScript
