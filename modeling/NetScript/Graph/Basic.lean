import NetScript.Edge
import NetScript.Node.Json

/-!
This module contains graphs and their reading and writing. The document `null` stands for no graph.
-/

namespace NetScript

structure Graph where
  nodes : List Node
  edges : List Edge

namespace Graph

def empty : Graph := ⟨[], []⟩

def equalNodes : List Node → List Node → Bool
  | [], [] => true
  | a :: as, b :: bs => a.equal b && equalNodes as bs
  | _, _ => false

/--
Equality of graphs, with the floats in their nodes compared as numbers.
-/
def equal (a b : Graph) : Bool :=
  equalNodes a.nodes b.nodes && a.edges = b.edges

def equalDocuments : Option Graph → Option Graph → Bool
  | some a, some b => a.equal b
  | none, none => true
  | _, _ => false

structure Draft where
  nodes : Option (List Node) := none
  edges : Option (List Edge) := none

def Draft.finish (draft : Draft) : Except Json.Fault Graph := do
  let nodes ← Json.required "nodes" draft.nodes
  return { nodes, edges := draft.edges.getD [] }

def nodesSlot : Json.Slot Draft where
  name := "nodes"
  isFilled draft := draft.nodes.isSome
  fill depth draft := return { draft with nodes := some (← Json.Reader.sequence Node.read depth) }

def edgesSlot : Json.Slot Draft where
  name := "edges"
  isOptional := true
  isFilled draft := draft.edges.isSome
  fill depth draft := return { draft with edges := some (← Json.Reader.sequence Edge.read depth) }

def record : Json.Record Draft Graph where
  name := "Graph"
  slots := [nodesSlot, edgesSlot]
  blank := {}
  finish := Draft.finish

def read (depth : Nat) : Json.Reader (Option Graph) :=
  Json.Reader.optional (record.read depth)

def parse (text : String) : Except Json.Error (Option Graph) :=
  Json.parseWith (read Json.Reader.maxDepth) text

def toJson (graph : Graph) : Json :=
  .object
    [ ("nodes", .array (graph.nodes.map Node.toJson)),
      ("edges", .array (graph.edges.map Edge.toJson)) ]

def serialize (graph? : Option Graph) : String :=
  ((graph?.map toJson).getD .null).compress

end Graph

end NetScript
