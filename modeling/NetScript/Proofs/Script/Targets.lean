import NetScript.Proofs.Forward.Embedding
import NetScript.Script.Basic

/-!
This module contains what the edges of a graph contribute to its script. The main statement is that
this is, for each id, the list of the targets of the edges that start there and that connect ids of
selected nodes. Nothing else about the edges is of any importance.
-/

namespace NetScript

namespace Edge

/--
Both ends of the edge are ids of selected nodes.
-/
def IsKept (nodes : List Node) (edge : Edge) : Prop :=
  (∃ node ∈ nodes, node.isSelected ∧ node.id = edge.source) ∧
    ∃ node ∈ nodes, node.isSelected ∧ node.id = edge.target

instance (nodes : List Node) (edge : Edge) : Decidable (edge.IsKept nodes) :=
  inferInstanceAs (Decidable (_ ∧ _))

/--
The targets of the kept edges that start at an id, in the order of the edges.
-/
def targets (nodes : List Node) (edges : List Edge) (id : String) : List String :=
  ((edges.filter (·.IsKept nodes)).filter (·.source = id)).map (·.target)

end Edge

namespace Network

theorem id_of_locate? {nodes : List Node} {id : String} {i : Fin nodes.length}
    (h : locate? nodes id = some i) : (nodes.get i).id = id := by
  unfold locate? at h
  rw [List.findFinIdx?_eq_some_iff] at h
  simpa using h.1

theorem isSome_locate? {nodes : List Node} {id : String} :
    (locate? nodes id).isSome ↔ ∃ node ∈ nodes, node.id = id := by
  simp [locate?, List.isSome_findFinIdx?]

theorem locate?_eq_iff {nodes : List Node} {id : String} {i : Fin nodes.length} :
    locate? nodes id = some i ↔
      locate? nodes (nodes.get i).id = some i ∧ id = (nodes.get i).id := by
  constructor
  · intro h
    rw [id_of_locate? h]
    exact ⟨h, rfl⟩
  · rintro ⟨h, hid⟩
    rwa [hid]

theorem children_eq_filterMap (nodes : List Node) (edges : List Edge) (i : Fin nodes.length) :
    (ofSelected nodes edges).children i =
      edges.filterMap fun edge =>
        if locate? nodes edge.source = some i then locate? nodes edge.target else none := by
  unfold children ofSelected
  dsimp only
  rw [List.filter_filterMap, List.map_filterMap]
  apply List.filterMap_congr
  intro edge _
  unfold link?
  cases locate? nodes edge.source with
  | none => simp
  | some source =>
    cases locate? nodes edge.target with
    | none => simp
    | some target =>
      rw [Option.filter_some]
      by_cases h : source = i <;> simp [h]

section

variable {nodes selected : List Node} (hselected : nodes.filter Node.isSelected = selected)

include hselected

theorem isKept_iff {edge : Edge} :
    edge.IsKept nodes ↔
      (locate? selected edge.source).isSome ∧ (locate? selected edge.target).isSome := by
  subst hselected
  simp [Edge.IsKept, isSome_locate?, and_assoc]

theorem filterMap_targets (edges : List Edge) (id : String) :
    (Edge.targets nodes edges id).filterMap (locate? selected) =
      edges.filterMap fun edge =>
        if (locate? selected edge.source).isSome ∧ edge.source = id then
          locate? selected edge.target
        else none := by
  unfold Edge.targets
  rw [List.filterMap_map, List.filterMap_filter, List.filterMap_filter]
  apply List.filterMap_congr
  intro edge _
  cases htarget : locate? selected edge.target <;>
    simp [isKept_iff hselected, htarget, ite_and]

theorem children_ofSelected (edges : List Edge) (i : Fin selected.length) :
    (ofSelected selected edges).children i =
      if locate? selected (selected.get i).id = some i then
        (Edge.targets nodes edges (selected.get i).id).filterMap (locate? selected)
      else [] := by
  rw [children_eq_filterMap]
  split
  · next hmeant =>
    rw [filterMap_targets hselected]
    apply List.filterMap_congr
    intro edge _
    congr 1
    rw [locate?_eq_iff, eq_iff_iff]
    constructor
    · rintro ⟨-, hid⟩
      rw [hid, hmeant]
      exact ⟨rfl, rfl⟩
    · rintro ⟨-, hid⟩
      exact ⟨hmeant, hid⟩
  · next hmeant =>
    -- Another node has the same id before this one, so no edge means this one.
    apply List.filterMap_eq_nil_iff.mpr
    intro edge _
    rw [if_neg]
    rw [locate?_eq_iff]
    exact fun h => hmeant h.1

theorem children_congr {edges edges' : List Edge}
    (h : ∀ id, Edge.targets nodes edges id = Edge.targets nodes edges' id)
    (i : Fin selected.length) :
    (ofSelected selected edges).children i = (ofSelected selected edges').children i := by
  have hchildren := children_ofSelected hselected edges i
  rw [h] at hchildren
  exact hchildren.trans (children_ofSelected hselected edges' i).symm

end

section

variable {nodes : List Node} {links links' : List (Fin nodes.length × Fin nodes.length)}

theorem isEntry_iff {net : Network} {i : Fin net.size} :
    net.isEntry i ↔ ∀ j, i ∉ net.children j := by
  simp only [isEntry, List.all_eq_true, decide_eq_true_eq, mem_children]
  constructor
  · intro h j hlink
    exact h _ hlink rfl
  · rintro h ⟨j, k⟩ hlink rfl
    exact h j hlink

def Embedding.ofChildren (h : ∀ i, children ⟨nodes, links⟩ i = children ⟨nodes, links'⟩ i) :
    Embedding ⟨nodes, links⟩ ⟨nodes, links'⟩ 0 where
  node := id
  val_node _ := rfl
  kind_node _ := rfl
  call_node _ _ := rfl
  children_node i := by
    rw [List.map_id]
    exact (h i).symm
  isEntry_node i := by
    rw [Bool.eq_iff_iff, isEntry_iff, isEntry_iff]
    exact forall_congr' fun j => by
      rw [h j]
      rfl

end

end Network

namespace Script

theorem ofGraph_congr_edges {nodes : List Node} {edges edges' : List Edge}
    (h : ∀ id, Edge.targets nodes edges id = Edge.targets nodes edges' id) :
    ofGraph ⟨nodes, edges⟩ = ofGraph ⟨nodes, edges'⟩ := by
  have hmodel : ModelClass.ofGraph ⟨nodes, edges⟩ = ModelClass.ofGraph ⟨nodes, edges'⟩ :=
    (Network.Embedding.ofChildren (Network.children_congr rfl fun id => (h id).symm)).ofNetwork_eq
      rfl
  unfold ofGraph
  rw [hmodel]

/--
Edges that are not kept, the ids of edges, and the order of edges with different sources make no
difference.
-/
theorem compile_congr_edges {nodes : List Node} {edges edges' : List Edge}
    (h : ∀ id, Edge.targets nodes edges id = Edge.targets nodes edges' id) :
    compile (some ⟨nodes, edges⟩) = compile (some ⟨nodes, edges'⟩) := by
  unfold compile
  dsimp only
  rw [ofGraph_congr_edges h]

/--
Two nodes share an id, one node is not selected, and one id is used by edges only.
-/
theorem compile_congr_edges_of_shuffle :
    let nodes : List Node := [.ofKind "a" "linear", .ofKind "m" "mse", .ofKind "b" "relu",
      .ofKind "a" "tanh", .ofKind "c" "tanh"]
    let edges : List Edge := [⟨"1", "a", "c"⟩, ⟨"2", "b", "c"⟩, ⟨"3", "a", "b"⟩, ⟨"4", "a", "m"⟩]
    let edges' : List Edge := [⟨"", "b", "c"⟩, ⟨"", "m", "b"⟩, ⟨"", "a", "c"⟩, ⟨"", "z", "c"⟩,
      ⟨"", "a", "b"⟩]
    (∀ id, Edge.targets nodes edges id = Edge.targets nodes edges' id) ∧
      compile (some ⟨nodes, edges⟩) = compile (some ⟨nodes, edges'⟩) := by
  intro nodes edges edges'
  have htargets : ∀ id, Edge.targets nodes edges id = Edge.targets nodes edges' id := by
    intro id
    have hkept : edges.filter (·.IsKept nodes) =
        [⟨"1", "a", "c"⟩, ⟨"2", "b", "c"⟩, ⟨"3", "a", "b"⟩] := by decide
    have hkept' : edges'.filter (·.IsKept nodes) =
        [⟨"", "b", "c"⟩, ⟨"", "a", "c"⟩, ⟨"", "a", "b"⟩] := by decide
    rw [Edge.targets, Edge.targets, hkept, hkept']
    by_cases ha : id = "a"
    · subst ha
      rfl
    · by_cases hb : "b" = id <;> simp [Ne.symm ha, hb]
  exact ⟨htargets, compile_congr_edges htargets⟩

end Script

end NetScript
