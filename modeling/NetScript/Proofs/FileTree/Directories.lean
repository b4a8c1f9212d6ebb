import NetScript.Proofs.FileTree.Places

/-!
This module contains the directories of a tree. The main statements are that writes of files keep
them, so that a path that names a file goes on naming the same one, and that making directories
changes no place where something is.
-/

namespace NetScript.FileTree

variable {tree tree' tree'' : FileTree} {dir : List String} {name path : String}

structure SameDirectories (tree tree' : FileTree) : Prop where
  workDir_eq : tree'.workDir = tree.workDir
  limits_eq : tree'.limits = tree.limits
  directory_iff : ∀ place, tree'.find? place = some .directory ↔ tree.find? place = some .directory

/--
Some directories are new. Nothing was where they are.
-/
structure MoreDirectories (tree tree' : FileTree) : Prop where
  workDir_eq : tree'.workDir = tree.workDir
  limits_eq : tree'.limits = tree.limits
  find?_eq : ∀ place, tree'.find? place = tree.find? place ∨
    tree.find? place = none ∧ tree'.find? place = some .directory

theorem SameDirectories.refl (tree : FileTree) : tree.SameDirectories tree :=
  ⟨rfl, rfl, fun _ => Iff.rfl⟩

theorem SameDirectories.trans (h : tree.SameDirectories tree') (h' : tree'.SameDirectories tree'') :
    tree.SameDirectories tree'' :=
  ⟨h'.workDir_eq.trans h.workDir_eq, h'.limits_eq.trans h.limits_eq, fun place =>
    (h'.directory_iff place).trans (h.directory_iff place)⟩

theorem sameDirectories_insert {place : List String} (h : tree.find? place ≠ some .directory)
    (contents : Contents) : tree.SameDirectories (tree.insert place (.file contents)) := by
  refine ⟨rfl, rfl, fun other => ?_⟩
  by_cases hother : other = place
  · subst hother
    simp [h]
  · rw [find?_insert_of_ne _ _ hother]

theorem sameDirectories_overwrite (tree : FileTree) (place : List String) (written : Contents) :
    tree.SameDirectories (tree.overwrite place written) := by
  unfold overwrite
  split
  · next item hitem =>
    cases item with
    | file contents => exact sameDirectories_insert (by simp [hitem]) _
    | directory =>
      refine ⟨rfl, rfl, fun other => ?_⟩
      by_cases hother : other = place
      · subst hother
        simp [hitem, Item.overwrite]
      · rw [find?_insert_of_ne _ _ hother]
  · exact .refl tree

theorem bind_eq_ok_iff {α β : Type} {x : Except FileError α} {f : α → Except FileError β} {b : β} :
    x.bind f = .ok b ↔ ∃ a, x = .ok a ∧ f a = .ok b := by
  cases x with
  | error e => simp [Except.bind]
  | ok a => simp [Except.bind]

theorem lookUp_eq_directory_iff :
    tree.lookUp dir name = .ok (some .directory) ↔
      name.utf8ByteSize ≤ FileError.maxName ∧ tree.find? (dir ++ [name]) = some .directory := by
  unfold lookUp
  rw [← Nat.not_lt]
  split
  · next h => simp [h]
  · next h => simp [h]

theorem step_eq_ok_iff {next : List String} :
    tree.step dir name = .ok next ↔
      if name = "." then dir = next
      else if name = ".." then dir.dropLast = next
      else tree.lookUp dir name = .ok (some .directory) ∧ dir ++ [name] = next := by
  unfold step
  split
  · simp
  · split
    · simp
    · split <;> simp_all

namespace SameDirectories

variable (h : tree.SameDirectories tree')

include h

theorem start_eq (path : String) : tree'.start path = tree.start path := by
  unfold start
  rw [h.workDir_eq]

theorem step_eq_ok {next : List String} :
    tree'.step dir name = .ok next ↔ tree.step dir name = .ok next := by
  rw [step_eq_ok_iff, step_eq_ok_iff, lookUp_eq_directory_iff, lookUp_eq_directory_iff,
    h.directory_iff]

theorem foldlM_step_eq_ok {names : List String} {last : List String} :
    names.foldlM tree'.step dir = .ok last ↔ names.foldlM tree.step dir = .ok last := by
  induction names generalizing dir with
  | nil => rfl
  | cons name names ih =>
    rw [List.foldlM_cons, List.foldlM_cons]
    apply bind_eq_ok_iff.trans
    simp only [h.step_eq_ok, ih]
    exact bind_eq_ok_iff.symm

theorem resolve_eq_ok {location : List String × Option String} :
    tree'.resolve path = .ok location ↔ tree.resolve path = .ok location := by
  rw [resolve_eq, resolve_eq, h.start_eq, enter_eq tree' tree]
  cases FileError.ofPath? path with
  | some e => rfl
  | none =>
    simp only [bind_eq_ok_iff, h.foldlM_step_eq_ok]

theorem filePlace?_eq (path : String) : tree'.filePlace? path = tree.filePlace? path := by
  have hlast : ∀ place, tree'.lastPlace? path = some place ↔ tree.lastPlace? path = some place := by
    intro place
    rw [lastPlace?_eq_some_iff, lastPlace?_eq_some_iff]
    simp only [h.resolve_eq_ok]
  apply Option.ext
  intro place
  rw [filePlace?_eq_some_iff, filePlace?_eq_some_iff, hlast, ne_eq, ne_eq, h.directory_iff]

theorem target_of_eq_ok {place : List String} (htarget : tree.target path = .ok place) :
    tree'.target path = .ok place := by
  obtain ⟨item?, hlocate, hrefusal⟩ := target_eq_ok_iff.mp htarget
  obtain ⟨dir, name, hresolve, hname, hplace, rfl⟩ := locate_eq_ok_iff.mp hlocate
  have hlocate' : tree'.locate path = .ok (place, tree'.find? place) :=
    locate_eq_ok_iff.mpr ⟨dir, name, h.resolve_eq_ok.mpr hresolve, hname, hplace, rfl⟩
  -- What the place holds may be another file now, but it is no directory still.
  refine target_eq_ok_iff.mpr ⟨_, hlocate', ?_⟩
  rw [refusal?_eq_none_iff, ne_eq, h.directory_iff]
  exact refusal?_eq_none_iff.mp hrefusal

end SameDirectories

theorem create_of_target {place : List String} (h : tree.target path = .ok place) :
    tree.create path = .ok (place, tree.insert place (.file .empty)) := by
  rw [create_eq, h]
  rfl

theorem create_of_target_error {e : FileError} (h : tree.target path = .error e) :
    tree.create path = .error e := by
  rw [create_eq, h]
  rfl

theorem sameDirectories_insert_of_target {place : List String} (h : tree.target path = .ok place)
    (contents : Contents) : tree.SameDirectories (tree.insert place (.file contents)) :=
  sameDirectories_insert (filePlace?_eq_some_iff.mp (filePlace?_of_target h)).2 contents

theorem create_eq_ok {place : List String} (h : tree.create path = .ok (place, tree')) :
    tree.filePlace? path = some place ∧ tree' = tree.insert place (.file .empty) := by
  cases htarget : tree.target path with
  | error e =>
    rw [create_of_target_error htarget] at h
    contradiction
  | ok found =>
    rw [create_of_target htarget] at h
    cases h
    exact ⟨filePlace?_of_target htarget, rfl⟩

theorem limits_of_create {place : List String} (h : tree.create path = .ok (place, tree')) :
    tree'.limits = tree.limits := by
  rw [(create_eq_ok h).2]
  rfl

@[simp]
theorem limits_overwrite (tree : FileTree) (place : List String) (written : Contents) :
    (tree.overwrite place written).limits = tree.limits :=
  (sameDirectories_overwrite tree place written).limits_eq

theorem accept_congr (h : tree'.limits = tree.limits) : tree'.accept = tree.accept := by
  funext place written
  unfold accept
  rw [h]

theorem accept_eq_of_ok {place : List String} {written : Contents}
    (h : (tree.accept place written).2 = .ok ()) : (tree.accept place written).1 = written := by
  unfold accept at h ⊢
  split at h
  · split at h
    · contradiction
    · next hsize => simp [hsize]
  · rfl

theorem accept_of_lookup_eq_none {place : List String}
    (h : tree.limits.lookup place = none) (written : Contents) :
    tree.accept place written = (written, .ok ()) := by
  unfold accept
  rw [h]

theorem write_eq_error {e : FileError} (h : tree.create path = .error e) (text : String) :
    tree.write path text = .error e := by
  unfold write
  rw [h]
  rfl

theorem write_eq {place : List String} (h : tree.create path = .ok (place, tree'))
    (text : String) :
    tree.write path text =
      (tree.accept place (.ofText text)).2.map fun _ =>
        tree'.overwrite place (tree.accept place (.ofText text)).1 := by
  unfold write
  rw [h]
  dsimp only [bind, Except.bind]
  rw [accept_congr (limits_of_create h)]
  cases (tree.accept place (.ofText text)).2 <;> rfl

theorem readText_of_read {text : String} (h : tree.read path = .ok (.ofText text)) :
    tree.readText path = .ok text := by
  rw [readText, h]
  exact Contents.text_ofText text

/-! Actions on a tree -/

theorem run_bind {α β : Type} (action : StateM FileTree α) (next : α → StateM FileTree β)
    (tree : FileTree) :
    (action >>= next).run tree = (next (action.run tree).1).run (action.run tree).2 :=
  rfl

theorem run_readText (tree : FileTree) (path : String) :
    (files.readText path).run tree = (tree.readText path, tree) :=
  rfl

theorem run_create (tree : FileTree) (path : String) :
    (files.create path).run tree =
      match tree.create path with
      | .ok (place, tree') => (.ok place, tree')
      | .error e => (.error e, tree) :=
  rfl

theorem run_write (tree : FileTree) (place : List String) (contents : Contents) :
    (files.write place contents).run tree =
      ((tree.accept place contents).2, tree.overwrite place (tree.accept place contents).1) :=
  rfl

theorem run_makeDir (tree : FileTree) (path : String) :
    (files.makeDir path).run tree =
      match tree.makeDir path with
      | .ok tree' => (.ok (), tree')
      | .error e => (.error e, tree) :=
  rfl

theorem run_isDirectory (tree : FileTree) (path : String) :
    (files.isDirectory path).run tree = (tree.isDirectory path, tree) :=
  rfl

/-! Making directories -/

namespace MoreDirectories

theorem refl (tree : FileTree) : tree.MoreDirectories tree :=
  ⟨rfl, rfl, fun _ => .inl rfl⟩

theorem trans (h : tree.MoreDirectories tree') (h' : tree'.MoreDirectories tree'') :
    tree.MoreDirectories tree'' := by
  refine ⟨h'.workDir_eq.trans h.workDir_eq, h'.limits_eq.trans h.limits_eq, fun place => ?_⟩
  rcases h.find?_eq place with heq | ⟨hnone, hdirectory⟩
  · rw [← heq]
    exact h'.find?_eq place
  -- Where a directory was made there is no place for another one.
  · rcases h'.find?_eq place with heq' | ⟨hnone', -⟩
    · exact .inr ⟨hnone, heq'.trans hdirectory⟩
    · rw [hdirectory] at hnone'
      contradiction

end MoreDirectories

theorem moreDirectories_makeDir (h : tree.makeDir path = .ok tree') :
    tree.MoreDirectories tree' := by
  unfold makeDir at h
  obtain ⟨⟨dir, name?⟩, -, h⟩ := bind_eq_ok_iff.mp h
  cases name? with
  | none => contradiction
  | some name =>
    obtain ⟨item?, hlookUp, h⟩ := bind_eq_ok_iff.mp h
    cases item? with
    | some item => contradiction
    | none =>
      cases h
      unfold lookUp at hlookUp
      split at hlookUp
      · contradiction
      · rw [Except.ok.injEq] at hlookUp
        refine ⟨rfl, rfl, fun place => ?_⟩
        by_cases hplace : place = dir ++ [name]
        · subst hplace
          exact .inr ⟨hlookUp, find?_insert_self _ _ _⟩
        · exact .inl (find?_insert_of_ne _ _ hplace)

theorem isDirectory_iff :
    tree.isDirectory path = true ↔
      FileError.ofPath? path = none ∧
        ∃ dir, (Path.names path).foldlM tree.step (tree.start path) = .ok dir := by
  unfold isDirectory
  rw [Bool.and_eq_true, Option.isNone_iff_eq_none]
  cases (Path.names path).foldlM tree.step (tree.start path) <;> simp [Except.isOk, Except.toBool]

theorem makeDir_of_isDirectory (h : tree.isDirectory path = true) :
    tree.makeDir path = .error .alreadyExists := by
  obtain ⟨hpath, last, hlast⟩ := isDirectory_iff.mp h
  unfold makeDir
  rw [resolve_eq, hpath]
  -- The last name is split off, as it is not followed but looked up.
  rcases (Path.names path).eq_nil_or_concat with hnames | ⟨names, name, hnames⟩
  · rw [hnames]
    rfl
  · rw [List.concat_eq_append] at hnames
    rw [hnames, List.foldlM_append] at hlast
    obtain ⟨dir, hdir, hlast⟩ := bind_eq_ok_iff.mp hlast
    obtain ⟨next, hstep, -⟩ := bind_eq_ok_iff.mp hlast
    rw [hnames, List.dropLast_concat, hdir]
    simp only [Except.bind, enter, List.getLast?_concat]
    split
    · rw [hstep]
      rfl
    · next hdots =>
      rw [not_or] at hdots
      rw [step_eq_ok_iff, if_neg hdots.1, if_neg hdots.2] at hstep
      show (tree.lookUp dir name).bind _ = _
      rw [hstep.1]
      rfl

theorem run_makeDirs (h : tree.isDirectory path = true) :
    (files.makeDirs path).run tree = (.ok (), tree) := by
  have hensure : (files.ensureDir path).run tree = (.ok (), tree) := by
    unfold Files.ensureDir
    rw [run_bind, run_makeDir, makeDir_of_isDirectory h]
    dsimp only
    rw [run_bind, run_isDirectory, h]
    rfl
  have hne : path ≠ "" := by
    rintro rfl
    have hpath := (isDirectory_iff.mp h).1
    revert hpath
    decide
  unfold Files.makeDirs Path.ancestors
  split <;> simp only [Files.ensureAll, if_neg hne, run_bind, hensure] <;> rfl

/--
Whatever the action is run on, it adds nothing but directories.
-/
def AddsDirectories {α : Type} (action : StateM FileTree α) : Prop :=
  ∀ tree : FileTree, tree.MoreDirectories (action.run tree).2

namespace AddsDirectories

variable {α β : Type}

theorem pure (a : α) : AddsDirectories (Pure.pure a) :=
  fun tree => .refl tree

theorem bind {action : StateM FileTree α} {next : α → StateM FileTree β}
    (h : AddsDirectories action) (hnext : ∀ a, AddsDirectories (next a)) :
    AddsDirectories (action >>= next) :=
  fun tree => (h tree).trans (hnext _ _)

theorem makeDir (path : String) : AddsDirectories (files.makeDir path) := by
  intro tree
  rw [run_makeDir]
  split
  · next h => exact moreDirectories_makeDir h
  · exact .refl tree

theorem isDirectory (path : String) : AddsDirectories (files.isDirectory path) :=
  fun tree => .refl tree

theorem ensureDir (path : String) : AddsDirectories (files.ensureDir path) := by
  apply (makeDir path).bind
  intro outcome
  split
  · apply pure
  · apply pure
  · apply (isDirectory path).bind
    intro found
    split <;> apply pure

theorem ensureAll (paths : List String) : AddsDirectories (files.ensureAll paths) := by
  induction paths with
  | nil => apply pure
  | cons path parents ih =>
    unfold Files.ensureAll
    split
    · apply pure
    · apply (ensureDir path).bind
      intro outcome
      split
      · apply ih.bind
        intro outcome
        split
        · apply ensureDir
        · apply pure
      · apply pure

theorem makeDirs (path : String) : AddsDirectories (files.makeDirs path) :=
  ensureAll _

end AddsDirectories

end NetScript.FileTree
