import NetScript.Script.ModelClass
import NetScript.Script.Preamble
import NetScript.Script.Training
import NetScript.Text.Blank

/-!
This module contains the scripts that graphs are compiled to.
-/

namespace NetScript

structure Script where
  imports : String
  model : String
  training : String
deriving DecidableEq

inductive CompileError where
  | noGraph
  | malformed (error : Json.Error)

def CompileError.message : CompileError → String
  | noGraph => "No graph was supplied to the compiler"
  | malformed error => "Graph JSON is malformed: " ++ error.message

namespace Script

def ofGraph (graph : Graph) : Script where
  imports := Preamble.render graph.nodes
  model := (ModelClass.ofGraph graph).render
  training := (Training.ofNodes graph.nodes).render

def compile (graph? : Option Graph) : Except CompileError Script :=
  match graph? with
  | some graph => .ok (ofGraph graph)
  | none => .error .noGraph

def readGraph (text : String) : Except CompileError (Option Graph) :=
  (Graph.parse text).mapError .malformed

def compileText (text : String) : Except CompileError Script := do
  compile (← readGraph text)

/--
The text of the script, with two empty lines between its parts.
-/
def source (script : Script) : String :=
  Text.trimEnd script.imports ++ "\n\n\n" ++ Text.trimEnd script.model ++ "\n\n\n" ++
    Text.trimEnd script.training ++ "\n"

def toJson (script : Script) : Json :=
  .object
    [ ("imports_text", .string script.imports),
      ("model_text", .string script.model),
      ("training_text", .string script.training) ]

end Script

end NetScript
