import NetScript.Files
import NetScript.Log.Filter
import NetScript.Manifest
import NetScript.Script.Basic

/-!
This module contains the export of all graphs of a manifest. It works on anything that files can be
read from and written to. A graph that cannot be exported does not keep the others from being
exported.
-/

namespace NetScript

namespace Export

inductive Failure where
  | unreadable (path : String) (error : FileError)
  | uncompilable (id : String) (error : CompileError)
  | unwritable (path : String) (error : FileError)

/--
An error is followed by the one that caused it, although it mentions its cause already.
-/
def chain : CompileError → String
  | .noGraph => CompileError.noGraph.message
  | .malformed error => (CompileError.malformed error).message ++ ": " ++ error.message

def Failure.message : Failure → String
  | unreadable path error => "Failed to read graph " ++ path ++ ": " ++ error.message
  | uncompilable id error => "Failed to compile program '" ++ id ++ "': " ++ chain error
  | unwritable path error => "Failed to write " ++ path ++ ": " ++ error.message

inductive Error where
  | unreadableManifest (path : String) (error : FileError)
  | malformedManifest (error : Json.Error)
  | noDirectory (error : FileError)
  | failures (count total : Nat)

def Error.message : Error → String
  | unreadableManifest path error =>
    "Error: Failed to read manifest " ++ path ++ "\n\nCaused by:\n    " ++ error.message
  | malformedManifest error => "Error: " ++ error.message
  | noDirectory error => "Error: " ++ error.message
  | failures count total =>
    "Error: " ++ toString count ++ " of " ++ toString total ++ " exports failed"

structure Report where
  events : List Log.Event
  failures : List Failure
  error? : Option Error

/--
What is printed about a run: first what is ignored in the text of the filter, then the events that
the filter shows, and at last the error.
-/
def Report.print (report : Report) (filterText : String) : String :=
  let (filter, faults) := Log.Filter.ofText filterText
  Text.unlines (faults.map (·.message)) ++
    String.join ((report.events.filter filter.shows).map (·.print)) ++
    Text.unlines (report.error?.toList.map (·.message))

def compilerTarget : String := "flowforge::compiler"

def networkTarget : String := "flowforge::graph_ext"

def modelTarget : String := "flowforge::codegen::model"

def exportTarget : String := "flowforge"

def isDangling (nodes : List Node) (edge : Edge) : Bool :=
  !(nodes.any (·.id = edge.source) && nodes.any (·.id = edge.target))

def danglingEvent (edge : Edge) : Log.Event where
  level := .debug
  target := networkTarget
  message :=
    "Ignoring dangling edge '" ++ edge.id ++ "' (" ++ edge.source ++ " -> " ++ edge.target ++ ")"

def skippedEvent (node : Node) : Log.Event where
  level := .debug
  target := modelTarget
  message := "Skipping node '" ++ node.id ++ "' of unknown kind '" ++ node.kind ++ "'"

def compileEvents (graph : Graph) : List Log.Event :=
  { level := .info
    target := compilerTarget
    message :=
      "Compiling graph with " ++ toString graph.nodes.length ++ " nodes and " ++
        toString graph.edges.length ++ " edges" } ::
  ((graph.edges.filter (isDangling graph.nodes)).map danglingEvent ++
    ((graph.nodes.filter Node.isSelected).filter (·.layer?.isNone)).map skippedEvent)

def exportedEvent (id path : String) : Log.Event where
  level := .info
  target := exportTarget
  message := "Exported '" ++ id ++ "' to " ++ path

def failureEvent (failure : Failure) : Log.Event where
  level := .error
  target := exportTarget
  message := failure.message

def finishedEvent (count : Nat) : Log.Event where
  level := .info
  target := exportTarget
  message := "Exported " ++ toString count ++ " programs"

variable {m : Type → Type} {Handle : Type} [Monad m]

def load (files : Files m Handle) (base : String) (entry : Manifest.Entry) :
    m (List Log.Event × Except Failure Script) := do
  let path := Manifest.graphPath base entry
  match ← files.readText path with
  | .error error => return ([], .error (.unreadable path error))
  | .ok text =>
    match Script.readGraph text with
    | .error error => return ([], .error (.uncompilable entry.id error))
    | .ok none => return ([], .error (.uncompilable entry.id .noGraph))
    | .ok (some graph) => return (compileEvents graph, .ok (.ofGraph graph))

def store (files : Files m Handle) (manifest : Manifest) (base : String) (entry : Manifest.Entry)
    (script : Script) : m (List Log.Event × Except Failure Unit) := do
  let path := manifest.scriptPath base entry
  match ← files.writeText path script.source with
  | .error error => return ([], .error (.unwritable path error))
  | .ok () => return ([exportedEvent entry.id path], .ok ())

def exportEntry (files : Files m Handle) (manifest : Manifest) (base : String)
    (entry : Manifest.Entry) : m (List Log.Event × Except Failure Unit) := do
  match ← load files base entry with
  | (events, .error failure) => return (events, .error failure)
  | (events, .ok script) =>
    let (more, outcome) ← store files manifest base entry script
    return (events ++ more, outcome)

/--
Exports the entries one after the other, and collects the events and the failures.
-/
def exportEntries (files : Files m Handle) (manifest : Manifest) (base : String) :
    List Manifest.Entry → m (List Log.Event × List Failure)
  | [] => return ([], [])
  | entry :: entries => do
    let (events, outcome) ← exportEntry files manifest base entry
    let (more, failures) ← exportEntries files manifest base entries
    match outcome with
    | .ok () => return (events ++ more, failures)
    | .error failure => return (events ++ more, failure :: failures)

/--
A way to export the entries of a manifest. It gives the events and the failures.
-/
abbrev Exporter (m : Type → Type) :=
  Manifest → String → m (List Log.Event × List Failure)

def exportAll (files : Files m Handle) : Exporter m :=
  fun manifest base => exportEntries files manifest base manifest.programs

def Report.ofExports (total : Nat) (events : List Log.Event) (failures : List Failure) : Report :=
  if failures.isEmpty then
    ⟨events ++ [finishedEvent total], [], none⟩
  else
    { events := events ++ failures.map failureEvent
      failures
      error? := some (.failures failures.length total) }

def defaultManifest : String := "assets/export.json"

def runManifest (files : Files m Handle) (exporter : Exporter m) (manifest : Manifest)
    (base : String) : m Report := do
  match ← files.makeDirs (manifest.outPath base) with
  | .error error => return ⟨[], [], some (.noDirectory error)⟩
  | .ok () =>
    let (events, failures) ← exporter manifest base
    return .ofExports manifest.programs.length events failures

def runWith (files : Files m Handle) (exporter : Exporter m) (args : List String) : m Report := do
  let path := args.head?.getD defaultManifest
  match ← files.readText path with
  | .error error => return ⟨[], [], some (.unreadableManifest path error)⟩
  | .ok text =>
    match Manifest.parse text with
    | .error error => return ⟨[], [], some (.malformedManifest error)⟩
    | .ok manifest => runManifest files exporter manifest ((Path.parent? path).getD ".")

def run (files : Files m Handle) (args : List String) : m Report :=
  runWith files (exportAll files) args

end Export

end NetScript
