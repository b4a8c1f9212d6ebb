import NetScript.Graph.Basic

/-!
This module contains the edits of a graph, as an editor makes them. Nodes and edges are named by
their index.
-/

namespace NetScript.Graph

inductive Edit where
  | addNode (node : Node)
  | insertNode (index : Nat) (node : Node)
  | removeNode (index : Nat)
  | swapNodes (index other : Nat)
  | setKind (index : Nat) (kind : String)
  | setId (index : Nat) (id : String)
  | setCategory (index : Nat) (category : Option Category)
  | set (index : Nat) (key : String) (value : Setting)
  | unset (index : Nat) (key : String)
  | addEdge (edge : Edge)
  | insertEdge (index : Nat) (edge : Edge)
  | removeEdge (index : Nat)
  | reverseEdges

def insertAt? (items : List α) (index : Nat) (item : α) : Option (List α) :=
  if index ≤ items.length then some (items.take index ++ item :: items.drop index) else none

def removeAt? (items : List α) (index : Nat) : Option (List α) :=
  if index < items.length then some (items.eraseIdx index) else none

def modifyAt? (items : List α) (index : Nat) (change : α → α) : Option (List α) :=
  if index < items.length then some (items.modify index change) else none

def swapAt? (items : List α) (index other : Nat) : Option (List α) := do
  let first ← items[index]?
  let second ← items[other]?
  return (items.set index second).set other first

/--
The graph after an edit, if the indices of the edit are in range.
-/
def edit? (graph : Graph) (edit : Edit) : Option Graph :=
  match edit with
  | .addNode node => some { graph with nodes := graph.nodes ++ [node] }
  | .insertNode index node => onNodes (insertAt? graph.nodes index node)
  | .removeNode index => onNodes (removeAt? graph.nodes index)
  | .swapNodes index other => onNodes (swapAt? graph.nodes index other)
  | .setKind index kind => onNode index fun node => { node with kind }
  | .setId index id => onNode index fun node => { node with id }
  | .setCategory index category => onNode index fun node => { node with category }
  | .set index key value => onNode index fun node => node.set key value
  | .unset index key => onNode index fun node => node.unset key
  | .addEdge edge => some { graph with edges := graph.edges ++ [edge] }
  | .insertEdge index edge => onEdges (insertAt? graph.edges index edge)
  | .removeEdge index => onEdges (removeAt? graph.edges index)
  | .reverseEdges => some { graph with edges := graph.edges.reverse }
where
  onNodes (nodes? : Option (List Node)) : Option Graph :=
    nodes?.map fun nodes => { graph with nodes }
  onEdges (edges? : Option (List Edge)) : Option Graph :=
    edges?.map fun edges => { graph with edges }
  onNode (index : Nat) (change : Node → Node) : Option Graph :=
    onNodes (modifyAt? graph.nodes index change)

end NetScript.Graph
