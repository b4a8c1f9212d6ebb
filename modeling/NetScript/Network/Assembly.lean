import NetScript.Network.Basic

/-!
This module contains the assembly of a network, one node and one edge at a time. Nodes and links are
known by numbers, in the order in which they are added. A node keeps the numbers of the links that
start and that end at it, with the newest one in front, so the links have to be sorted by number to
find the children of a node in the order of the edges.
-/

namespace NetScript

structure Assembly where
  nodes : List Node
  index : Fields Nat
  links : List (Nat × Nat)
  outgoing : Nat → List Nat
  incoming : Nat → List Nat

namespace Assembly

def empty : Assembly where
  nodes := []
  index := .empty
  links := []
  outgoing _ := []
  incoming _ := []

/--
An id that is in the index keeps its meaning.
-/
def addNode (assembly : Assembly) (node : Node) : Assembly :=
  { assembly with
    nodes := assembly.nodes ++ [node]
    index :=
      if (assembly.index.find? node.id).isSome then assembly.index
      else assembly.index.insert node.id assembly.nodes.length }

def addLink (assembly : Assembly) (source target : Nat) : Assembly :=
  let number := assembly.links.length
  { assembly with
    links := assembly.links ++ [(source, target)]
    outgoing := fun i =>
      if i = source then number :: assembly.outgoing i else assembly.outgoing i
    incoming := fun i =>
      if i = target then number :: assembly.incoming i else assembly.incoming i }

/--
Adds the link of an edge. An edge with an end that is not a known id dangles.
-/
def addEdge (known : List String) (assembly : Assembly) (edge : Edge) : Assembly :=
  if known.contains edge.source && known.contains edge.target then
    match assembly.index.find? edge.source, assembly.index.find? edge.target with
    | some source, some target => assembly.addLink source target
    | _, _ => assembly
  else
    assembly

/--
All ids of the graph are known, but only the selected nodes are added.
-/
def ofGraph (graph : Graph) : Assembly :=
  graph.edges.foldl (addEdge (graph.nodes.map (·.id)))
    ((graph.nodes.filter Node.isSelected).foldl addNode empty)

def children (assembly : Assembly) (i : Nat) : List Nat :=
  ((assembly.outgoing i).mergeSort (· ≤ ·)).filterMap fun number =>
    assembly.links[number]?.map (·.2)

def entries (assembly : Assembly) : List Nat :=
  (List.range assembly.nodes.length).filter fun i => (assembly.incoming i).isEmpty

end Assembly

end NetScript
