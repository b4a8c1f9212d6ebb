import Mathlib.Data.List.FinRange
import Mathlib.Data.List.Sort
import NetScript.Network.Assembly
import NetScript.Proofs.Script.Targets

/-!
This module contains what the network of a graph is made of, in terms of the nodes and edges of the
graph, and that its assembly one node and one edge at a time comes to the same network.
-/

namespace NetScript

/--
What the two ends of an edge mean, if both mean something.
-/
def Edge.ends? {α : Type} (meaning? : String → Option α) (edge : Edge) : Option (α × α) := do
  let source ← meaning? edge.source
  let target ← meaning? edge.target
  return (source, target)

theorem Edge.ends?_eq_some_iff {α : Type} {meaning? : String → Option α} {edge : Edge} {a b : α} :
    edge.ends? meaning? = some (a, b) ↔
      meaning? edge.source = some a ∧ meaning? edge.target = some b := by
  unfold ends?
  cases meaning? edge.source <;> cases meaning? edge.target <;> simp

theorem Edge.ends?_map {α β : Type} (meaning? : String → Option α) (f : α → β) (edge : Edge) :
    edge.ends? (fun id => (meaning? id).map f) =
      (edge.ends? meaning?).map fun ends => (f ends.1, f ends.2) := by
  unfold ends?
  dsimp only
  cases meaning? edge.source <;> cases meaning? edge.target <;> rfl

namespace Assembly

variable (assembly : Assembly)

theorem nodes_foldl_addNode (nodes : List Node) :
    (nodes.foldl addNode assembly).nodes = assembly.nodes ++ nodes := by
  induction nodes generalizing assembly with
  | nil => simp
  | cons node nodes ih =>
    rw [List.foldl_cons, ih]
    simp [addNode]

theorem find?_addNode (node : Node) (id : String) :
    (assembly.addNode node).index.find? id =
      (assembly.index.find? id).or (if node.id = id then some assembly.nodes.length else none) := by
  unfold addNode
  dsimp only
  split
  · next hknown =>
    obtain ⟨i, hi⟩ := Option.isSome_iff_exists.mp hknown
    by_cases hid : node.id = id
    · subst hid
      simp [hi]
    · simp [hid]
  · next hnew =>
    rw [Option.not_isSome_iff_eq_none] at hnew
    by_cases hid : node.id = id
    · subst hid
      simp [hnew]
    · rw [Fields.find?_insert_of_ne _ _ (Ne.symm hid)]
      simp [hid]

theorem find?_foldl_addNode (nodes : List Node) (id : String) :
    (nodes.foldl addNode assembly).index.find? id =
      (assembly.index.find? id).or
        ((nodes.findIdx? (·.id = id)).map (· + assembly.nodes.length)) := by
  induction nodes generalizing assembly with
  | nil => simp
  | cons node nodes ih =>
    have hlength : (assembly.addNode node).nodes.length = assembly.nodes.length + 1 := by
      simp [addNode]
    rw [List.foldl_cons, ih, find?_addNode, hlength, List.findIdx?_cons]
    cases assembly.index.find? id with
    | some i => rfl
    | none =>
      by_cases hid : node.id = id
      · simp [hid]
      · simp [hid, Function.comp_def, Nat.add_assoc, Nat.add_comm 1]

def numbers (p : Nat × Nat → Bool) : List Nat :=
  (assembly.links.zipIdx.filter (p ·.1)).map (·.2)

theorem pairwise_numbers (p : Nat × Nat → Bool) : (assembly.numbers p).Pairwise (· < ·) := by
  have hsublist : (assembly.numbers p).Sublist (assembly.links.zipIdx.map (·.2)) :=
    List.filter_sublist.map _
  rw [List.zipIdx_map_snd] at hsublist
  exact (List.pairwise_lt_range' _).sublist hsublist

structure Coherent : Prop where
  outgoing_eq : ∀ i, assembly.outgoing i = (assembly.numbers (·.1 = i)).reverse
  incoming_eq : ∀ i, assembly.incoming i = (assembly.numbers (·.2 = i)).reverse

variable {assembly}

theorem numbers_addLink (source target : Nat) (p : Nat × Nat → Bool) :
    (assembly.addLink source target).numbers p =
      if p (source, target) then assembly.numbers p ++ [assembly.links.length]
      else assembly.numbers p := by
  unfold numbers addLink
  dsimp only
  rw [List.zipIdx_append, List.filter_append, List.map_append]
  split
  · next h => simp [h]
  · next h => simp [h]

theorem coherent_empty : empty.Coherent :=
  ⟨fun _ => rfl, fun _ => rfl⟩

theorem Coherent.addNode (h : assembly.Coherent) (node : Node) :
    (assembly.addNode node).Coherent :=
  ⟨h.outgoing_eq, h.incoming_eq⟩

theorem Coherent.addLink (h : assembly.Coherent) (source target : Nat) :
    (assembly.addLink source target).Coherent := by
  constructor
  · intro i
    rw [numbers_addLink, Assembly.addLink]
    dsimp only
    rw [h.outgoing_eq]
    by_cases hi : source = i
    · simp [hi]
    · simp [hi, Ne.symm hi]
  · intro i
    rw [numbers_addLink, Assembly.addLink]
    dsimp only
    rw [h.incoming_eq]
    by_cases hi : target = i
    · simp [hi]
    · simp [hi, Ne.symm hi]

theorem Coherent.addEdge (h : assembly.Coherent) (known : List String) (edge : Edge) :
    (assembly.addEdge known edge).Coherent := by
  unfold Assembly.addEdge
  split
  · split
    · exact h.addLink _ _
    · exact h
  · exact h

theorem coherent_ofGraph (graph : Graph) : (ofGraph graph).Coherent := by
  have hnodes (nodes : List Node) : (nodes.foldl Assembly.addNode empty).Coherent :=
    List.foldlRecOn nodes _ coherent_empty fun _ h node _ => h.addNode node
  exact List.foldlRecOn graph.edges _ (hnodes _) fun _ h edge _ => h.addEdge _ edge

theorem filterMap_numbers (p : Nat × Nat → Bool) :
    ((assembly.numbers p).filterMap fun number => assembly.links[number]?.map (·.2)) =
      (assembly.links.filter p).map (·.2) := by
  have hlinks : assembly.links.filter p =
      (assembly.links.zipIdx.filter (p ·.1)).map (·.1) := by
    conv_lhs => rw [← List.zipIdx_map_fst 0 assembly.links, List.filter_map]
    rfl
  rw [hlinks, numbers, List.filterMap_map, List.map_map, ← List.filterMap_eq_map]
  apply List.filterMap_congr
  rintro ⟨link, number⟩ hmem
  have hget := List.mem_zipIdx_iff_getElem?.mp (List.mem_filter.mp hmem).1
  simp [hget]

theorem Coherent.children_eq (h : assembly.Coherent) (i : Nat) :
    assembly.children i = (assembly.links.filter (·.1 = i)).map (·.2) := by
  have hsorted : (assembly.outgoing i).mergeSort (· ≤ ·) = assembly.numbers (·.1 = i) := by
    rw [h.outgoing_eq]
    have hperm := (List.mergeSort_perm (assembly.numbers (·.1 = i)).reverse
      (fun a b => decide (a ≤ b))).trans (List.reverse_perm _)
    have hmerged : ((assembly.numbers (·.1 = i)).reverse.mergeSort
        fun a b => decide (a ≤ b)).Pairwise fun a b => decide (a ≤ b) = true :=
      List.pairwise_mergeSort (by simp; omega) (by simp; omega) _
    -- The numbers of the links ascend, so sorting brings them back into their order.
    refine List.Perm.eq_of_pairwise (fun a b _ _ hab hba => Nat.le_antisymm hab hba)
      (hmerged.imp of_decide_eq_true) ?_ hperm
    exact (assembly.pairwise_numbers _).imp Nat.le_of_lt
  rw [children, hsorted, filterMap_numbers]

theorem numbers_eq_nil_iff {p : Nat × Nat → Bool} :
    assembly.numbers p = [] ↔ ∀ link ∈ assembly.links, p link = false := by
  have hlength : (assembly.numbers p).length = assembly.links.countP p := by
    conv_rhs => rw [← List.zipIdx_map_fst 0 assembly.links, List.countP_map]
    rw [numbers, List.length_map, ← List.countP_eq_length_filter]
    rfl
  rw [← List.length_eq_zero_iff, hlength, List.countP_eq_zero]
  simp

theorem Coherent.entries_eq (h : assembly.Coherent) :
    assembly.entries = (List.range assembly.nodes.length).filter fun i =>
      assembly.links.all (·.2 ≠ i) := by
  apply List.filter_congr
  intro i _
  rw [h.incoming_eq, Bool.eq_iff_iff, List.isEmpty_iff, List.reverse_eq_nil_iff,
    numbers_eq_nil_iff, List.all_eq_true]
  simp

theorem index_addEdge (known : List String) (edge : Edge) :
    (assembly.addEdge known edge).index = assembly.index := by
  unfold addEdge
  split
  · split <;> rfl
  · rfl

theorem nodes_addEdge (known : List String) (edge : Edge) :
    (assembly.addEdge known edge).nodes = assembly.nodes := by
  unfold addEdge
  split
  · split <;> rfl
  · rfl

theorem links_addEdge {known : List String}
    (hknown : ∀ id, (assembly.index.find? id).isSome → id ∈ known) (edge : Edge) :
    (assembly.addEdge known edge).links =
      assembly.links ++ (edge.ends? assembly.index.find?).toList := by
  unfold addEdge Edge.ends?
  cases hsource : assembly.index.find? edge.source with
  | none => split <;> simp
  | some source =>
    cases htarget : assembly.index.find? edge.target with
    | none => split <;> simp
    | some target =>
      have hends : (known.contains edge.source && known.contains edge.target) = true := by
        simp [hknown _ (Option.isSome_of_eq_some hsource),
          hknown _ (Option.isSome_of_eq_some htarget)]
      rw [if_pos hends]
      rfl

theorem foldl_addEdge {known : List String}
    (hknown : ∀ id, (assembly.index.find? id).isSome → id ∈ known) (edges : List Edge) :
    (edges.foldl (addEdge known) assembly).nodes = assembly.nodes ∧
      (edges.foldl (addEdge known) assembly).index = assembly.index ∧
      (edges.foldl (addEdge known) assembly).links =
        assembly.links ++ edges.filterMap (Edge.ends? assembly.index.find?) := by
  induction edges generalizing assembly with
  | nil => simp
  | cons edge edges ih =>
    -- Edges do not change what ids mean, so that all ids in the index are still known.
    have hnext : ∀ id, ((assembly.addEdge known edge).index.find? id).isSome → id ∈ known := by
      rw [index_addEdge]
      exact hknown
    obtain ⟨hnodes, hindex, hlinks⟩ := ih hnext
    rw [List.foldl_cons, hnodes, hindex, hlinks, index_addEdge, nodes_addEdge,
      links_addEdge hknown, List.append_assoc, List.filterMap_cons]
    refine ⟨rfl, rfl, ?_⟩
    cases edge.ends? assembly.index.find? <;> rfl

end Assembly

namespace Network

variable {net : Network}

theorem find?_foldr_insert (key : α → String) (as : List α) (id : String) :
    (as.foldr (fun a (fields : Fields α) => fields.insert (key a) a) .empty).find? id =
      as.find? fun a => key a = id := by
  induction as with
  | nil => rfl
  | cons a as ih =>
    rw [List.foldr_cons, List.find?_cons]
    by_cases hid : key a = id
    · rw [hid, Fields.find?_insert_self]
      simp
    · rw [Fields.find?_insert_of_ne _ _ (Ne.symm hid), ih]
      simp [hid]

theorem locate?_eq_some_iff {nodes : List Node} {id : String} {i : Fin nodes.length} :
    locate? nodes id = some i ↔ (nodes.get i).id = id ∧ ∀ j < i, (nodes.get j).id ≠ id := by
  rw [locate?, List.findFinIdx?_eq_some_iff]
  simp

theorem find?_index (net : Network) (id : String) :
    net.index.find? id = locate? net.nodes id := by
  apply Option.ext
  intro i
  -- The fold starts at the right, so the first node with an id is inserted last and stays.
  rw [locate?_eq_some_iff, index, find?_foldr_insert, List.find?_eq_some_iff_getElem]
  simp only [decide_eq_true_eq, List.getElem_finRange, Bool.not_eq_true', decide_eq_false_iff_not]
  apply and_congr_right
  intro _
  constructor
  · rintro ⟨_, _, rfl, h⟩ j hj
    exact h j.val hj
  · intro h
    exact ⟨i.val, by simp, rfl, fun j hj => h ⟨j, Nat.lt_trans hj i.isLt⟩ hj⟩

theorem links_ofSelected (nodes : List Node) (edges : List Edge) :
    (ofSelected nodes edges).links = edges.filterMap (Edge.ends? (locate? nodes)) := by
  apply List.filterMap_congr
  intro edge _
  unfold link? Edge.ends?
  cases locate? nodes edge.source <;> cases locate? nodes edge.target <;> rfl

theorem locate?_ne_of_lt {nodes : List Node} {i j : Fin nodes.length} (h : j < i)
    (hid : (nodes.get j).id = (nodes.get i).id) (id : String) : locate? nodes id ≠ some i := by
  intro hmeant
  obtain ⟨heq, hfirst⟩ := locate?_eq_some_iff.mp hmeant
  exact hfirst j h (hid.trans heq)

/--
What the network of a graph is made of.
-/
structure IsNetworkOf (net : Network) (graph : Graph) : Prop where
  nodes_eq : net.nodes = graph.nodes.filter Node.isSelected
  ordinal_eq : ∀ i, net.ordinal i = i.val + 1
  /-- An id means the first of the nodes that have it. -/
  index_eq_some_iff : ∀ id i, net.index.find? id = some i ↔
    (net.nodes.get i).id = id ∧ ∀ j < i, (net.nodes.get j).id ≠ id
  index_isSome_iff : ∀ id, (net.index.find? id).isSome ↔
    ∃ node ∈ graph.nodes, node.isSelected ∧ node.id = id
  /-- Edges are kept in their order, and all of them if they are parallel. -/
  links_eq : net.links = graph.edges.filterMap (Edge.ends? net.index.find?)
  count_links : ∀ i j, net.links.count (i, j) = graph.edges.countP fun edge =>
    net.index.find? edge.source = some i ∧ net.index.find? edge.target = some j
  children_eq : ∀ i, net.children i =
    (graph.edges.filter fun edge => net.index.find? edge.source = some i).filterMap fun edge =>
      net.index.find? edge.target
  mem_entries_iff : ∀ i, i ∈ net.entries ↔ ∀ link ∈ net.links, link.2 ≠ i
  pairwise_entries : net.entries.Pairwise (· < ·)
  /-- A node whose id means another one is on its own. -/
  alone_of_lt : ∀ i j, j < i → (net.nodes.get j).id = (net.nodes.get i).id →
    net.children i = [] ∧ i ∈ net.entries

theorem links_ofGraph (graph : Graph) :
    (ofGraph graph).links =
      graph.edges.filterMap (Edge.ends? (locate? (ofGraph graph).nodes)) :=
  links_ofSelected _ _

theorem children_ofGraph (graph : Graph) (i : Fin (ofGraph graph).size) :
    (ofGraph graph).children i =
      graph.edges.filterMap fun edge =>
        if locate? (ofGraph graph).nodes edge.source = some i then
          locate? (ofGraph graph).nodes edge.target
        else none :=
  children_eq_filterMap _ _ i

theorem isNetworkOf_ofGraph (graph : Graph) : (ofGraph graph).IsNetworkOf graph where
  nodes_eq := rfl
  ordinal_eq _ := rfl
  index_eq_some_iff id i := by
    rw [find?_index, locate?_eq_some_iff]
  index_isSome_iff id := by
    rw [find?_index, isSome_locate?]
    simp [ofGraph, ofSelected, and_assoc]
  links_eq := by
    rw [funext (find?_index _), links_ofGraph]
  count_links i j := by
    rw [funext (find?_index _), links_ofGraph, List.count, List.countP_filterMap]
    apply List.countP_congr
    intro edge _
    rw [decide_eq_true_eq, ← Edge.ends?_eq_some_iff]
    cases edge.ends? (locate? (ofGraph graph).nodes) <;> simp
  children_eq i := by
    rw [funext (find?_index _), List.filterMap_filter, children_ofGraph]
    simp
  mem_entries_iff i := mem_entries
  pairwise_entries := (List.sortedLT_finRange _).pairwise.filter _
  alone_of_lt i j h hid := by
    have hmeant := locate?_ne_of_lt h hid
    constructor
    · rw [children_ofGraph]
      apply List.filterMap_eq_nil_iff.mpr
      intro edge _
      exact if_neg (hmeant edge.source)
    · rw [mem_entries, links_ofGraph]
      rintro ⟨source, target⟩ hlink rfl
      obtain ⟨edge, _, hedge⟩ := List.mem_filterMap.mp hlink
      exact hmeant edge.target (Edge.ends?_eq_some_iff.mp hedge).2

end Network

namespace Assembly

structure Makes (assembly : Assembly) (net : Network) : Prop where
  nodes_eq : assembly.nodes = net.nodes
  index_eq : ∀ id, assembly.index.find? id = (net.index.find? id).map Fin.val
  links_eq : assembly.links = net.links.map fun link => (link.1.val, link.2.val)
  children_eq : ∀ i : Fin net.size, assembly.children i = (net.children i).map Fin.val
  entries_eq : assembly.entries = net.entries.map Fin.val

theorem find?_index_ofSelected (nodes : List Node) (id : String) :
    (nodes.foldl addNode empty).index.find? id = (Network.locate? nodes id).map Fin.val := by
  rw [find?_foldl_addNode, Network.locate?, ← List.findIdx?_eq_map_findFinIdx?_val]
  simp [empty]

theorem links_foldl_addNode (nodes : List Node) :
    (nodes.foldl addNode assembly).links = assembly.links := by
  induction nodes generalizing assembly with
  | nil => rfl
  | cons node nodes ih => exact ih

theorem makes_ofGraph (graph : Graph) : (ofGraph graph).Makes (.ofGraph graph) := by
  have hfound (id : String) :
      ((graph.nodes.filter Node.isSelected).foldl addNode empty).index.find? id =
        (Network.locate? (Network.ofGraph graph).nodes id).map Fin.val :=
    find?_index_ofSelected _ id
  have hknown (id : String)
      (h : (((graph.nodes.filter Node.isSelected).foldl addNode empty).index.find? id).isSome) :
      id ∈ graph.nodes.map (·.id) := by
    rw [hfound, Option.isSome_map, Network.isSome_locate?] at h
    obtain ⟨node, hnode, rfl⟩ := h
    exact List.mem_map_of_mem (List.mem_of_mem_filter hnode)
  obtain ⟨hnodes, hindex, hlinks⟩ := foldl_addEdge hknown graph.edges
  have hnodes : (ofGraph graph).nodes = (Network.ofGraph graph).nodes :=
    hnodes.trans (nodes_foldl_addNode empty _)
  have hlinks : (ofGraph graph).links =
      (Network.ofGraph graph).links.map fun link => (link.1.val, link.2.val) := by
    rw [Network.links_ofGraph, List.map_filterMap]
    refine (hlinks.trans (congrArg (· ++ _) (links_foldl_addNode _))).trans ?_
    apply List.filterMap_congr
    intro edge _
    rw [funext hfound, Edge.ends?_map]
  have hcoherent := coherent_ofGraph graph
  refine ⟨hnodes, fun id => ?_, hlinks, fun i => ?_, ?_⟩
  · rw [Network.find?_index, ← hfound]
    exact congrArg (·.find? id) hindex
  · rw [hcoherent.children_eq, hlinks, Network.children, List.filter_map]
    simp [Function.comp_def, Fin.val_inj]
  · rw [hcoherent.entries_eq, hnodes, hlinks, Network.entries, ← List.map_coe_finRange_eq_range,
      List.filter_map]
    congr 1
    apply List.filter_congr
    intro i _
    simp [Network.isEntry, Function.comp_def, Fin.val_inj]

end Assembly

namespace Network

/--
The network of a graph is what the graph says, and it is what its assembly comes to.
-/
theorem isNetworkOf_and_makes_ofGraph (graph : Graph) :
    (ofGraph graph).IsNetworkOf graph ∧ (Assembly.ofGraph graph).Makes (ofGraph graph) :=
  ⟨isNetworkOf_ofGraph graph, Assembly.makes_ofGraph graph⟩

end Network

end NetScript
