import NetScript.Export

/-!
This module contains the export of all entries of a manifest at the same time. An entry takes four
turns: it reads its graph, it compiles it, it opens the file of its script, which empties it, and it
writes its script to this file. Whatever others do to the file between the last two turns stays
where the script does not reach. A schedule says which entries the next turns belong to. The entries
that are not done when it ends are finished one after the other.
-/

namespace NetScript.Export

variable {Handle : Type}

/--
How far the export of an entry has come.
-/
inductive Stage (Handle : Type) where
  | waiting
  | loaded (text : String)
  | compiled (text : String) (script : Script)
  | opened (text : String) (script : Script) (handle : Handle)
  | exported (text : String) (script : Script)
  | failed (failure : Failure)

/--
What an entry, given by its number, does to the file of its script.
-/
inductive Touch where
  | emptied (entry : Nat)
  | written (entry : Nat) (script : Script)

def Touch.entry : Touch → Nat
  | emptied entry => entry
  | written entry _ => entry

@[simp]
theorem Touch.entry_emptied (entry : Nat) : (emptied entry).entry = entry := rfl

@[simp]
theorem Touch.entry_written (entry : Nat) (script : Script) :
    (written entry script).entry = entry := rfl

namespace Stage

def failure? : Stage Handle → Option Failure
  | failed failure => some failure
  | _ => none

def isDone : Stage Handle → Bool
  | exported _ _ => true
  | failed _ => true
  | _ => false

/--
What an entry does to its file on the way to the next stage. A write may fail after some bytes.
-/
def touch? (entry : Nat) : Stage Handle → Stage Handle → Option Touch
  | compiled _ _, opened _ _ _ => some (.emptied entry)
  | opened _ script _, _ => some (.written entry script)
  | _, _ => none

end Stage

structure Job (Handle : Type) where
  entry : Manifest.Entry
  stage : Stage Handle

/--
The touches are in the order in which they have happened.
-/
structure Progress (Handle : Type) where
  jobs : List (Job Handle)
  events : List Log.Event
  touches : List Touch

def Progress.start (manifest : Manifest) : Progress Handle where
  jobs := manifest.programs.map (⟨·, .waiting⟩)
  events := []
  touches := []

def Progress.failures (progress : Progress Handle) : List Failure :=
  progress.jobs.filterMap (·.stage.failure?)

def compileTurn (entry : Manifest.Entry) (text : String) : List Log.Event × Stage Handle :=
  match Script.readGraph text with
  | .error error => ([], .failed (.uncompilable entry.id error))
  | .ok none => ([], .failed (.uncompilable entry.id .noGraph))
  | .ok (some graph) => (compileEvents graph, .compiled text (.ofGraph graph))

variable {m : Type → Type} [Monad m]

/--
A turn of an entry. Nothing happens if it is done.
-/
def advance (files : Files m Handle) (manifest : Manifest) (base : String)
    (entry : Manifest.Entry) : Stage Handle → m (List Log.Event × Stage Handle)
  | .waiting => do
    let path := Manifest.graphPath base entry
    match ← files.readText path with
    | .error error => return ([], .failed (.unreadable path error))
    | .ok text => return ([], .loaded text)
  | .loaded text => return compileTurn entry text
  | .compiled text script => do
    let path := manifest.scriptPath base entry
    match ← files.create path with
    | .error error => return ([], .failed (.unwritable path error))
    | .ok handle => return ([], .opened text script handle)
  | .opened text script handle => do
    let path := manifest.scriptPath base entry
    match ← files.write handle (.ofText script.source) with
    | .error error => return ([], .failed (.unwritable path error))
    | .ok () => return ([exportedEvent entry.id path], .exported text script)
  | stage => return ([], stage)

def Progress.record (progress : Progress Handle) (i : Nat) (job : Job Handle)
    (events : List Log.Event) (stage : Stage Handle) : Progress Handle where
  jobs := progress.jobs.set i { job with stage }
  events := progress.events ++ events
  touches := progress.touches ++ (job.stage.touch? i stage).toList

def turn (files : Files m Handle) (manifest : Manifest) (base : String)
    (progress : Progress Handle) (i : Nat) : m (Progress Handle) := do
  match progress.jobs[i]? with
  | none => return progress
  | some job =>
    let (events, stage) ← advance files manifest base job.entry job.stage
    return progress.record i job events stage

/--
The schedule that finishes the given number of jobs one after the other.
-/
def inOrder (count : Nat) : List Nat :=
  (List.range count).flatMap fun i => [i, i, i, i]

def interleave (files : Files m Handle) (manifest : Manifest) (base : String)
    (schedule : List Nat) : m (Progress Handle) :=
  (schedule ++ inOrder manifest.programs.length).foldlM (turn files manifest base) (.start manifest)

def exportInterleaved (files : Files m Handle) (schedule : List Nat) : Exporter m :=
  fun manifest base => do
    let progress ← interleave files manifest base schedule
    return (progress.events, progress.failures)

end NetScript.Export
