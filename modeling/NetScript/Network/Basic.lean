import NetScript.Graph.Basic
import NetScript.Layer

/-!
This module contains the network of a graph: its selected nodes, and the edges between them with
their ends resolved. Nodes are numbered in the order of the graph. If several selected nodes share
an id then edges only ever mean the first of them.
-/

namespace NetScript

structure Network where
  nodes : List Node
  links : List (Fin nodes.length × Fin nodes.length)

namespace Network

abbrev size (net : Network) : Nat :=
  net.nodes.length

/--
The first of the given nodes that has this id.
-/
def locate? (nodes : List Node) (id : String) : Option (Fin nodes.length) :=
  nodes.findFinIdx? (·.id = id)

def link? (nodes : List Node) (edge : Edge) : Option (Fin nodes.length × Fin nodes.length) :=
  match locate? nodes edge.source, locate? nodes edge.target with
  | some source, some target => some (source, target)
  | _, _ => none

def ofSelected (nodes : List Node) (edges : List Edge) : Network where
  nodes
  links := edges.filterMap (link? nodes)

def ofGraph (graph : Graph) : Network :=
  ofSelected (graph.nodes.filter Node.isSelected) graph.edges

def isEmpty (net : Network) : Bool :=
  net.nodes.isEmpty

def ordinal (net : Network) (i : Fin net.size) : Nat :=
  i.val + 1

def layer? (net : Network) (i : Fin net.size) : Option Layer :=
  (net.nodes.get i).layer?

def children (net : Network) (i : Fin net.size) : List (Fin net.size) :=
  (net.links.filter (·.1 = i)).map (·.2)

def isEntry (net : Network) (i : Fin net.size) : Bool :=
  net.links.all (·.2 ≠ i)

def entries (net : Network) : List (Fin net.size) :=
  (List.finRange net.size).filter net.isEntry

/--
The ids of the nodes, each with the node that edges mean by it.
-/
def index (net : Network) : Fields (Fin net.size) :=
  (List.finRange net.size).foldr (fun i index => index.insert (net.nodes.get i).id i) .empty

theorem ordinal_inj {net : Network} {i j : Fin net.size} :
    net.ordinal i = net.ordinal j ↔ i = j := by
  simp [ordinal, Fin.ext_iff]

theorem mem_children {net : Network} {i j : Fin net.size} :
    j ∈ net.children i ↔ (i, j) ∈ net.links := by
  simp [children]

theorem mem_entries {net : Network} {i : Fin net.size} :
    i ∈ net.entries ↔ ∀ link ∈ net.links, link.2 ≠ i := by
  simp [entries, isEntry]

end Network

end NetScript
