import NetScript.Proofs.Script.Interchange

/-!
This module contains what the canonical form of nodes keeps. The main statement is that a graph has
the script of its canonical form. How a key is spelled, what else has a setting, and settings of the
wrong shape only matter for which settings are of use.
-/

namespace NetScript

namespace Node

theorem useful?_of_not_mem {key : String} (h : key ∉ lookedUp.map Prod.fst) (node : Node) :
    node.useful? key = none := by
  have hkey : lookedUp.lookup key = none := by
    rw [List.lookup_eq_none_iff]
    intro known hknown
    rw [bne_iff_ne]
    rintro rfl
    exact h (List.mem_map_of_mem hknown)
  rw [useful?, hkey, Option.bind_none]

theorem find?_canonical (node : Node) (key : String) :
    node.canonical.settings.find? key = node.useful? key := by
  rw [canonical, Fields.find?_tabulate]
  split
  · rfl
  · next h => exact (useful?_of_not_mem h node).symm

theorem camelCase_cases {key : String} (h : key ∈ lookedUp.map Prod.fst) :
    Text.camelCase key = key ∨ Text.camelCase key ∉ lookedUp.map Prod.fst := by
  have hkeys : ∀ key ∈ lookedUp.map Prod.fst,
      Text.camelCase key = key ∨ Text.camelCase key ∉ lookedUp.map Prod.fst := by
    decide +kernel
  exact hkeys key h

theorem setting?_canonical {key : String} (h : key ∈ lookedUp.map Prod.fst) (node : Node) :
    node.canonical.setting? key = node.useful? key := by
  rw [setting?, find?_canonical, find?_canonical]
  -- The second look-up, under the camel case of the key, finds nothing new.
  rcases camelCase_cases h with heq | hne
  · rw [heq]
    cases node.useful? key <;> rfl
  · rw [useful?_of_not_mem hne]
    cases node.useful? key <;> rfl

theorem useful?_canonical (node : Node) : node.canonical.useful? = node.useful? := by
  funext key
  by_cases h : key ∈ lookedUp.map Prod.fst
  · rw [useful?, setting?_canonical h, useful?]
    cases lookedUp.lookup key <;> simp [Option.filter_filter]
  · rw [useful?_of_not_mem h, useful?_of_not_mem h]

theorem interchangeable_canonical (node : Node) : node.canonical.Interchangeable node :=
  ⟨rfl, rfl, node.useful?_canonical⟩

theorem canonical_canonical (node : Node) : node.canonical.canonical = node.canonical := by
  rw [canonical, useful?_canonical]
  rfl

end Node

namespace Script

theorem compile_canonical (graph : Graph) :
    compile (some graph.canonical) = compile (some graph) ∧
    graph.canonical.canonical = graph.canonical ∧
    ∀ (node : Node) (key : String), node.canonical.settings.find? key =
      (Node.lookedUp.lookup key).bind fun takes => (node.setting? key).filter takes := by
  have hedges : List.Forall₂ (Edge.Renamed id) graph.edges graph.edges := by
    rw [List.forall₂_same]
    exact fun _ _ => ⟨rfl, rfl⟩
  refine ⟨?_, ?_, Node.find?_canonical⟩
  · unfold compile Graph.canonical
    dsimp only
    rw [ofGraph_map Node.interchangeable_canonical Function.injective_id (fun _ => rfl) hedges]
  · unfold Graph.canonical
    dsimp only
    rw [List.map_map]
    congr 2
    funext node
    exact node.canonical_canonical

end Script

end NetScript
