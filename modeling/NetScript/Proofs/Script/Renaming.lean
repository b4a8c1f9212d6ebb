import Mathlib.Logic.Equiv.Basic
import NetScript.Proofs.Script.Interchange

/-!
This module contains the renaming of the nodes of a graph. The main statement is that the script of
a graph does not depend on the names of its nodes and edges, but only on which of them are equal.
-/

namespace NetScript

variable {f : String → String}

def Node.rename (f : String → String) (node : Node) : Node :=
  { node with id := f node.id }

structure Graph.Renamed (f : String → String) (graph graph' : Graph) : Prop where
  nodes_eq : graph'.nodes = graph.nodes.map (Node.rename f)
  edges : List.Forall₂ (Edge.Renamed f) graph.edges graph'.edges

theorem Node.interchangeable_rename (node : Node) : (node.rename f).Interchangeable node :=
  ⟨rfl, rfl, rfl⟩

namespace Script

theorem ofGraph_rename (hf : Function.Injective f) {graph graph' : Graph}
    (h : graph.Renamed f graph') : ofGraph graph' = ofGraph graph := by
  have hgraph : graph' = ⟨graph.nodes.map (Node.rename f), graph'.edges⟩ := by
    rw [← h.nodes_eq]
  rw [hgraph]
  exact ofGraph_map Node.interchangeable_rename hf (fun _ => rfl) h.edges

/--
Nodes that share an id still do. Of those the same one stands for all of them.
-/
theorem compile_rename (hf : Function.Injective f) {graph graph' : Graph}
    (h : graph.Renamed f graph') :
    compile (some graph') = compile (some graph) ∧
      (∀ i j : Nat, graph'.nodes[i]?.map Node.id = graph'.nodes[j]?.map Node.id ↔
        graph.nodes[i]?.map Node.id = graph.nodes[j]?.map Node.id) ∧
      ∀ id, (Network.locate? (Network.ofGraph graph').nodes (f id)).map Fin.val =
        (Network.locate? (Network.ofGraph graph).nodes id).map Fin.val := by
  refine ⟨?_, ?_, ?_⟩
  · unfold compile
    dsimp only
    rw [ofGraph_rename hf h]
  · intro i j
    have hids : ∀ k : Nat, graph'.nodes[k]?.map Node.id = (graph.nodes[k]?.map Node.id).map f := by
      intro k
      rw [h.nodes_eq, List.getElem?_map, Option.map_map, Option.map_map]
      rfl
    rw [hids, hids]
    exact (Option.map_injective hf).eq_iff
  · intro id
    have hnodes : (Network.ofGraph graph').nodes =
        (Network.ofGraph graph).nodes.map (Node.rename f) := by
      unfold Network.ofGraph Network.ofSelected
      rw [h.nodes_eq, filter_isSelected_map Node.interchangeable_rename]
    rw [hnodes, Network.locate?_map hf fun _ => rfl, Option.map_map]
    rfl

/--
The name of three nodes, one of which is not selected, is exchanged with a name that only an edge
uses.
-/
theorem compile_rename_of_swap :
    let f := Equiv.swap "a" "z"
    let graph : Graph := ⟨[.ofKind "a" "mse", .ofKind "b" "linear", .ofKind "a" "relu",
      .ofKind "a" "tanh"], [⟨"first", "b", "a"⟩, ⟨"second", "a", "z"⟩]⟩
    let graph' : Graph := ⟨[.ofKind "z" "mse", .ofKind "b" "linear", .ofKind "z" "relu",
      .ofKind "z" "tanh"], [⟨"same", "b", "z"⟩, ⟨"same", "z", "a"⟩]⟩
    Function.Injective f ∧ graph.Renamed f graph' ∧ compile (some graph') = compile (some graph) ∧
      (Network.locate? (Network.ofGraph graph').nodes "z").map Fin.val = some 1 := by
  intro f graph graph'
  have hf : Function.Injective f := f.injective
  have hgraph : graph.Renamed f graph' := by
    constructor
    · rfl
    · exact .cons ⟨rfl, rfl⟩ (.cons ⟨rfl, rfl⟩ .nil)
  obtain ⟨hcompile, -, hlocate⟩ := compile_rename hf hgraph
  exact ⟨hf, hgraph, hcompile, hlocate "a"⟩

end Script

end NetScript
