import Mathlib.Data.List.Induction
import NetScript.Export.Interleaving
import NetScript.Proofs.FileTree.Directories

/-!
This module contains what a turn of an entry does to a tree of files. The main statement lists all
that can happen: only the turn that opens the file of a script and the one that writes the script
change the tree, and they change no other place than that of the file.
-/

namespace NetScript.Export

variable {manifest : Manifest} {base : String} {entry : Manifest.Entry} {tree tree' : FileTree}
variable {stage stage' : Stage (List String)} {i : Nat}

theorem Stage.touch?_of_isDone (h : stage.isDone = true) : stage.touch? i stage' = none := by
  cases stage with
  | exported text script => rfl
  | failed failure => rfl
  | _ => contradiction

/--
What a turn does to the stage of an entry and to the tree. A write that the file does not take as a
whole is cut, and fails.
-/
inductive Advances (manifest : Manifest) (base : String) (entry : Manifest.Entry) :
    Stage (List String) → FileTree → Stage (List String) → FileTree → Prop where
  | unreadable {tree : FileTree} {error : FileError}
      (h : tree.readText (Manifest.graphPath base entry) = .error error) :
      Advances manifest base entry .waiting tree
        (.failed (.unreadable (Manifest.graphPath base entry) error)) tree
  | load {tree : FileTree} {text : String}
      (h : tree.readText (Manifest.graphPath base entry) = .ok text) :
      Advances manifest base entry .waiting tree (.loaded text) tree
  | uncompilable {tree : FileTree} {text : String} {error : CompileError}
      (h : Script.compileText text = .error error) :
      Advances manifest base entry (.loaded text) tree (.failed (.uncompilable entry.id error)) tree
  | compile {tree : FileTree} {text : String} {script : Script}
      (h : Script.compileText text = .ok script) :
      Advances manifest base entry (.loaded text) tree (.compiled text script) tree
  | shut {tree : FileTree} {text : String} {script : Script} {error : FileError}
      (h : tree.create (manifest.scriptPath base entry) = .error error) :
      Advances manifest base entry (.compiled text script) tree
        (.failed (.unwritable (manifest.scriptPath base entry) error)) tree
  | opens {tree tree' : FileTree} {text : String} {script : Script} {place : List String}
      (h : tree.create (manifest.scriptPath base entry) = .ok (place, tree')) :
      Advances manifest base entry (.compiled text script) tree (.opened text script place) tree'
  | cut {tree : FileTree} {text : String} {script : Script} {place : List String}
      {error : FileError} (h : (tree.accept place (.ofText script.source)).2 = .error error) :
      Advances manifest base entry (.opened text script place) tree
        (.failed (.unwritable (manifest.scriptPath base entry) error))
        (tree.overwrite place (tree.accept place (.ofText script.source)).1)
  | write {tree : FileTree} {text : String} {script : Script} {place : List String}
      (h : (tree.accept place (.ofText script.source)).2 = .ok ()) :
      Advances manifest base entry (.opened text script place) tree (.exported text script)
        (tree.overwrite place (tree.accept place (.ofText script.source)).1)
  | stay {tree : FileTree} {stage : Stage (List String)} (h : stage.isDone = true) :
      Advances manifest base entry stage tree stage tree

theorem Advances.cases_tree (h : Advances manifest base entry stage tree stage' tree') :
    tree' = tree ∧ (∀ i, stage.touch? i stage' = none) ∨
    (∃ text script place, stage = .compiled text script ∧ stage' = .opened text script place ∧
      tree.create (manifest.scriptPath base entry) = .ok (place, tree')) ∨
    ∃ text script place, stage = .opened text script place ∧
      tree' = tree.overwrite place (tree.accept place (.ofText script.source)).1 := by
  cases h with
  | opens h => exact .inr (.inl ⟨_, _, _, rfl, rfl, h⟩)
  | cut h => exact .inr (.inr ⟨_, _, _, rfl, rfl⟩)
  | write h => exact .inr (.inr ⟨_, _, _, rfl, rfl⟩)
  | stay h => exact .inl ⟨rfl, fun i => Stage.touch?_of_isDone h⟩
  | _ => exact .inl ⟨rfl, fun i => rfl⟩

theorem Advances.unique {stage'' : Stage (List String)} {tree'' : FileTree}
    (h : Advances manifest base entry stage tree stage' tree')
    (h' : Advances manifest base entry stage tree stage'' tree'') :
    stage'' = stage' ∧ tree'' = tree' := by
  -- Two different ways to go on from a stage have conditions that exclude each other.
  cases h <;> cases h' <;> simp_all [Stage.isDone]

theorem Advances.eq_of_done (h : Advances manifest base entry stage tree stage' tree')
    (hdone : stage.isDone = true) : stage' = stage := by
  cases h with
  | stay h => rfl
  | _ => contradiction

theorem advances_exported {place : List String} (h : tree.limits.lookup place = none)
    (text : String) (script : Script) :
    Advances manifest base entry (.opened text script place) tree (.exported text script)
      (tree.overwrite place (.ofText script.source)) := by
  have haccept := FileTree.accept_of_lookup_eq_none h (.ofText script.source)
  have hwrite : (tree.accept place (.ofText script.source)).2 = .ok () := by
    rw [haccept]
  have hadvances : Advances manifest base entry (.opened text script place) tree _ _ :=
    .write hwrite
  rw [haccept] at hadvances
  exact hadvances

theorem Advances.sameDirectories (h : Advances manifest base entry stage tree stage' tree') :
    tree.SameDirectories tree' := by
  rcases h.cases_tree with
    ⟨rfl, -⟩ | ⟨text, script, place, -, -, hcreate⟩ | ⟨text, script, place, -, rfl⟩
  · exact .refl tree'
  · obtain ⟨hplace, rfl⟩ := FileTree.create_eq_ok hcreate
    exact FileTree.sameDirectories_insert (FileTree.filePlace?_eq_some_iff.mp hplace).2 _
  · exact FileTree.sameDirectories_overwrite _ _ _

/-! The turns that are computed -/

theorem advances_compileTurn (text : String) :
    Advances manifest base entry (.loaded text) tree (compileTurn entry text).2 tree := by
  unfold compileTurn
  split
  · next error hread =>
    apply Advances.uncompilable
    rw [Script.compileText, hread]
    rfl
  · next hread =>
    apply Advances.uncompilable
    rw [Script.compileText, hread]
    rfl
  · next graph hread =>
    apply Advances.compile
    rw [Script.compileText, hread]
    rfl

theorem run_advance_waiting :
    (advance FileTree.files manifest base entry .waiting).run tree =
      match tree.readText (Manifest.graphPath base entry) with
      | .error error => (([], .failed (.unreadable (Manifest.graphPath base entry) error)), tree)
      | .ok text => (([], .loaded text), tree) := by
  unfold advance
  dsimp only
  rw [FileTree.run_bind, FileTree.run_readText]
  cases tree.readText (Manifest.graphPath base entry) <;> rfl

theorem run_advance_compiled (text : String) (script : Script) :
    (advance FileTree.files manifest base entry (.compiled text script)).run tree =
      match tree.create (manifest.scriptPath base entry) with
      | .error error =>
        (([], .failed (.unwritable (manifest.scriptPath base entry) error)), tree)
      | .ok (place, tree) => (([], .opened text script place), tree) := by
  unfold advance
  dsimp only
  rw [FileTree.run_bind, FileTree.run_create]
  rcases tree.create (manifest.scriptPath base entry) with error | ⟨place, tree'⟩ <;> rfl

theorem run_advance_opened (text : String) (script : Script) (place : List String) :
    (advance FileTree.files manifest base entry (.opened text script place)).run tree =
      (match (tree.accept place (.ofText script.source)).2 with
        | .error error => ([], .failed (.unwritable (manifest.scriptPath base entry) error))
        | .ok () =>
          ([exportedEvent entry.id (manifest.scriptPath base entry)], .exported text script),
        tree.overwrite place (tree.accept place (.ofText script.source)).1) := by
  unfold advance
  dsimp only
  rw [FileTree.run_bind, FileTree.run_write]
  rcases (tree.accept place (.ofText script.source)).2 with error | ⟨⟩ <;> rfl

theorem advance_of_isDone (files : Files (StateM FileTree) (List String))
    (h : stage.isDone = true) :
    advance files manifest base entry stage = pure ([], stage) := by
  cases stage with
  | exported text script => rfl
  | failed failure => rfl
  | _ => contradiction

theorem advances_advance (stage : Stage (List String)) (tree : FileTree) :
    Advances manifest base entry stage tree
      ((advance FileTree.files manifest base entry stage).run tree).1.2
      ((advance FileTree.files manifest base entry stage).run tree).2 := by
  cases stage with
  | waiting =>
    rw [run_advance_waiting]
    cases hread : tree.readText (Manifest.graphPath base entry) with
    | error e => exact .unreadable hread
    | ok text => exact .load hread
  | loaded text => exact advances_compileTurn text
  | compiled text script =>
    rw [run_advance_compiled]
    rcases hcreate : tree.create (manifest.scriptPath base entry) with e | ⟨place, tree'⟩
    · exact .shut hcreate
    · exact .opens hcreate
  | opened text script place =>
    rw [run_advance_opened]
    rcases haccept : (tree.accept place (.ofText script.source)).2 with e | ⟨⟩
    · exact .cut haccept
    · exact .write haccept
  | exported text script => exact .stay rfl
  | failed failure => exact .stay rfl

theorem level_compileEvents (graph : Graph) :
    ∀ event ∈ compileEvents graph, event.level ≠ .error := by
  simp only [compileEvents, List.forall_mem_cons, List.forall_mem_append, List.forall_mem_map]
  simp [danglingEvent, skippedEvent]

theorem level_advance (stage : Stage (List String)) (tree : FileTree) :
    ∀ event ∈ ((advance FileTree.files manifest base entry stage).run tree).1.1,
      event.level ≠ .error := by
  cases stage with
  | waiting =>
    rw [run_advance_waiting]
    cases tree.readText (Manifest.graphPath base entry) <;> exact List.forall_mem_nil _
  | loaded text =>
    show ∀ event ∈ (compileTurn entry text : _ × Stage (List String)).1, _
    unfold compileTurn
    split
    · exact List.forall_mem_nil _
    · exact List.forall_mem_nil _
    · apply level_compileEvents
  | compiled text script =>
    rw [run_advance_compiled]
    rcases tree.create (manifest.scriptPath base entry) with e | ⟨place, tree'⟩ <;>
      exact List.forall_mem_nil _
  | opened text script place =>
    rw [run_advance_opened]
    rcases (tree.accept place (.ofText script.source)).2 with e | ⟨⟩
    · exact List.forall_mem_nil _
    · simp [exportedEvent]
  | exported text script => exact List.forall_mem_nil _
  | failed failure => exact List.forall_mem_nil _

/-! What is known after some turns -/

namespace Progress

variable {progress : Progress (List String)} {job : Job (List String)}

def stage? (progress : Progress (List String)) (i : Nat) : Option (Stage (List String)) :=
  progress.jobs[i]?.map (·.stage)

theorem getElem?_jobs_record (h : progress.jobs[i]? = some job) (events : List Log.Event)
    (stage : Stage (List String)) (k : Nat) :
    (progress.record i job events stage).jobs[k]? =
      if k = i then some { job with stage } else progress.jobs[k]? := by
  obtain ⟨hi, -⟩ := List.getElem?_eq_some_iff.mp h
  unfold record
  rw [List.getElem?_set]
  by_cases hk : i = k
  · subst hk
    simp [hi]
  · simp [hk, Ne.symm hk]

theorem stage?_record (h : progress.jobs[i]? = some job) (events : List Log.Event)
    (stage : Stage (List String)) (k : Nat) :
    (progress.record i job events stage).stage? k =
      if k = i then some stage else progress.stage? k := by
  unfold stage?
  rw [getElem?_jobs_record h]
  split <;> rfl

theorem entries_record (h : progress.jobs[i]? = some job) (events : List Log.Event)
    (stage : Stage (List String)) :
    (progress.record i job events stage).jobs.map (·.entry) = progress.jobs.map (·.entry) := by
  apply List.ext_getElem?
  intro k
  rw [List.getElem?_map, List.getElem?_map, getElem?_jobs_record h]
  split
  · next hk =>
    subst hk
    rw [h]
    rfl
  · rfl

theorem record_of_isDone (h : progress.jobs[i]? = some job) (hdone : job.stage.isDone = true) :
    progress.record i job [] job.stage = progress := by
  obtain ⟨hi, rfl⟩ := List.getElem?_eq_some_iff.mp h
  unfold record
  rw [Stage.touch?_of_isDone hdone, List.set_getElem_self, Option.toList_none, List.append_nil,
    List.append_nil]

end Progress

def after (manifest : Manifest) (base : String) (tree : FileTree) (turns : List Nat) :
    Progress (List String) × FileTree :=
  (turns.foldlM (turn FileTree.files manifest base) (.start manifest)).run tree

theorem after_concat (turns : List Nat) (i : Nat) :
    after manifest base tree (turns ++ [i]) =
      (turn FileTree.files manifest base (after manifest base tree turns).1 i).run
        (after manifest base tree turns).2 := by
  unfold after
  rw [List.foldlM_append]
  rfl

theorem turn_cases (manifest : Manifest) (base : String) (progress : Progress (List String))
    (tree : FileTree) (i : Nat) :
    progress.jobs[i]? = none ∧
        (turn FileTree.files manifest base progress i).run tree = (progress, tree) ∨
      ∃ job events stage tree', progress.jobs[i]? = some job ∧
        Advances manifest base job.entry job.stage tree stage tree' ∧
        (∀ event ∈ events, event.level ≠ .error) ∧
        (turn FileTree.files manifest base progress i).run tree =
          (progress.record i job events stage, tree') := by
  unfold turn
  cases hjob : progress.jobs[i]? with
  | none => exact .inl ⟨rfl, rfl⟩
  | some job =>
    exact .inr ⟨job, _, _, _, rfl, advances_advance job.stage tree, level_advance job.stage tree,
      rfl⟩

variable {start : FileTree} {turns : List Nat} {progress : Progress (List String)}
variable {job : Job (List String)}

theorem after_concat_eq (h : after manifest base start turns = (progress, tree)) (i : Nat)
    (hjob : progress.jobs[i]? = some job)
    (hadvances : Advances manifest base job.entry job.stage tree stage tree') :
    ∃ events, after manifest base start (turns ++ [i]) =
      (progress.record i job events stage, tree') := by
  rw [after_concat, h]
  rcases turn_cases manifest base progress tree i with
    ⟨hnone, -⟩ | ⟨job', events, stage', tree'', hjob', hadvances', -, hrun⟩
  · rw [hnone] at hjob
    contradiction
  · obtain rfl : job = job' := Option.some.inj (hjob.symm.trans hjob')
    obtain ⟨rfl, rfl⟩ := hadvances.unique hadvances'
    exact ⟨events, hrun⟩

theorem after_append_of_isDone (h : after manifest base start turns = (progress, tree))
    (hdone : ∀ job ∈ progress.jobs, job.stage.isDone = true) (more : List Nat) :
    after manifest base start (turns ++ more) = (progress, tree) := by
  induction more using List.reverseRecOn with
  | nil => rw [List.append_nil, h]
  | append_singleton more i ih =>
    rw [← List.append_assoc, after_concat, ih]
    dsimp only
    unfold turn
    split
    · rfl
    · next job hjob =>
      have hjobDone := hdone job (List.mem_of_getElem? hjob)
      rw [FileTree.run_bind, advance_of_isDone _ hjobDone]
      show (progress.record i job [] job.stage, tree) = _
      rw [Progress.record_of_isDone hjob hjobDone]

end NetScript.Export
