import NetScript.Graph.Edit
import NetScript.Script.Basic

/-!
This module contains editing sessions, which hold a graph or none. After each command the graph is
compiled.
-/

namespace NetScript

abbrev Session := Option Graph

namespace Session

inductive Command where
  | drop
  | load (text : String)
  | edit (edit : Graph.Edit)

inductive Failure where
  | compile (error : CompileError)
  | indexOutOfRange

/--
The session after a command. An edit starts with an empty graph if there is none, even if its
indices are out of range. A text that cannot be read leaves the session as it is.
-/
def apply (session : Session) (command : Command) : Session × Except Failure Unit :=
  match command with
  | .drop => (none, .ok ())
  | .load text =>
    match Script.readGraph text with
    | .ok graph? => (graph?, .ok ())
    | .error error => (session, .error (.compile error))
  | .edit edit =>
    let graph := session.getD .empty
    match graph.edit? edit with
    | some graph => (some graph, .ok ())
    | none => (some graph, .error .indexOutOfRange)

def run (session : Session) (command : Command) : Session × Except Failure Script :=
  let (session, outcome) := session.apply command
  (session, outcome.bind fun _ => (Script.compile session).mapError .compile)

end Session

end NetScript
