import NetScript.Export.Interleaving

/-!
This module contains the empty schedule. The main statement is that an export by turns that follows
the order of the manifest is the export of one entry after the other.
-/

namespace NetScript.Export

variable {m : Type → Type} {Handle : Type} [Monad m] {files : Files m Handle}
variable {manifest : Manifest} {base : String} {before after : List (Job Handle)}
variable {entry : Manifest.Entry} {events : List Log.Event} {touches : List Touch}

theorem turn_middle (stage : Stage Handle) :
    turn files manifest base ⟨before ++ ⟨entry, stage⟩ :: after, events, touches⟩ before.length =
      advance files manifest base entry stage >>= fun result =>
        pure {
          jobs := before ++ ⟨entry, result.2⟩ :: after
          events := events ++ result.1
          touches := touches ++ (stage.touch? before.length result.2).toList } := by
  have hjob : (before ++ Job.mk entry stage :: after)[before.length]? = some ⟨entry, stage⟩ := by
    simp
  unfold turn
  dsimp only
  rw [hjob]
  simp only [Progress.record]
  congr 1
  funext result
  rw [List.set_append_right _ _ (Nat.le_refl _), Nat.sub_self, List.set_cons_zero]

/--
The turns that finish the given number of jobs one after the other, from the given one on.
-/
def turnsFrom (start count : Nat) : List Nat :=
  (List.range' start count).flatMap fun i => [i, i, i, i]

variable [LawfulMonad m]

theorem turns_eq_exportEntry (next : Progress Handle → m (List Log.Event × List Failure))
    (rest : m (List Log.Event × List Failure))
    (hnext : ∀ stage events touches,
      next ⟨before ++ ⟨entry, stage⟩ :: after, events, touches⟩ =
        rest >>= fun result =>
          pure (events ++ result.1,
            before.filterMap (·.stage.failure?) ++ (stage.failure?.toList ++ result.2))) :
    ([before.length, before.length, before.length, before.length].foldlM
        (turn files manifest base)
        ⟨before ++ ⟨entry, .waiting⟩ :: after, events, touches⟩ >>= next) =
      exportEntry files manifest base entry >>= fun exported =>
        rest >>= fun result =>
          pure (events ++ (exported.1 ++ result.1),
            before.filterMap (·.stage.failure?) ++
              match exported.2 with
              | .ok () => result.2
              | .error failure => failure :: result.2) := by
  simp only [List.foldlM_cons, List.foldlM_nil, turn_middle, bind_assoc, pure_bind]
  -- Both sides read the graph, compile it, open the file and write to it. They stop at a failure.
  simp only [advance, exportEntry, load, bind_assoc]
  apply bind_congr
  intro read
  cases read with
  | error e => simp [hnext, Stage.failure?]
  | ok text =>
    simp only [pure_bind, compileTurn]
    rcases Script.readGraph text with e | _ | graph
    · simp [hnext, Stage.failure?]
    · simp [hnext, Stage.failure?]
    · simp only [pure_bind, bind_assoc, store, Files.writeText]
      apply bind_congr
      rintro (error | handle)
      · simp [hnext, Stage.failure?]
      · simp only [pure_bind, bind_assoc]
        apply bind_congr
        rintro (error | ⟨⟩)
        · simp [hnext, Stage.failure?]
        · simp [hnext, Stage.failure?]

theorem foldlM_turnsFrom (before : List (Job Handle)) (events : List Log.Event)
    (touches : List Touch) (entries : List Manifest.Entry) :
    ((turnsFrom before.length entries.length).foldlM (turn files manifest base)
        ⟨before ++ entries.map (⟨·, .waiting⟩), events, touches⟩ >>= fun progress =>
          pure (progress.events, progress.failures)) =
      exportEntries files manifest base entries >>= fun result =>
        pure (events ++ result.1, before.filterMap (·.stage.failure?) ++ result.2) := by
  -- The loop is general in the jobs in front, which are done already.
  induction entries generalizing before events touches with
  | nil => simp [turnsFrom, exportEntries, Progress.failures]
  | cons entry entries ih =>
    have hturns : turnsFrom before.length (entry :: entries).length =
        [before.length, before.length, before.length, before.length] ++
          turnsFrom (before.length + 1) entries.length := by
      simp [turnsFrom, List.range'_succ]
    rw [hturns, List.foldlM_append, bind_assoc, List.map_cons]
    rw [turns_eq_exportEntry _ (exportEntries files manifest base entries)]
    · simp only [exportEntries, bind_assoc]
      apply bind_congr
      rintro ⟨more, failure | ⟨⟩⟩ <;> simp
    · intro stage events touches
      have hjobs : before ++ ⟨entry, stage⟩ :: entries.map (⟨·, .waiting⟩) =
          (before ++ [⟨entry, stage⟩]) ++ entries.map (⟨·, .waiting⟩) := by
        simp
      have hlength : before.length + 1 = (before ++ [Job.mk entry stage]).length := by
        simp
      have hfailure :
          [Job.mk entry stage].filterMap (·.stage.failure?) = stage.failure?.toList := by
        cases hstage : stage.failure? <;> simp [hstage]
      rw [hjobs, hlength, ih, List.filterMap_append, hfailure]
      simp only [List.append_assoc]

theorem exportInterleaved_nil (files : Files m Handle) :
    exportInterleaved files [] = exportAll files := by
  funext manifest base
  have hturns : inOrder manifest.programs.length = turnsFrom 0 manifest.programs.length := by
    rw [inOrder, turnsFrom, List.range_eq_range']
  unfold exportInterleaved interleave
  rw [List.nil_append, hturns]
  apply (foldlM_turnsFrom [] [] [] manifest.programs).trans
  simp [exportAll]

theorem run_eq_runWith (files : Files m Handle) :
    run files = runWith files (exportInterleaved files []) := by
  rw [exportInterleaved_nil]
  rfl

end NetScript.Export
