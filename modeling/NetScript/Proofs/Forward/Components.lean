import Mathlib
import NetScript.Proofs.Forward.Embedding

/-!
This module contains networks that consist of two others with no links between them. The main
statement is on graphs side by side, no edge of which names a node of the other one: the model of
both is the model of the first one followed by that of the second one, renumbered.
-/

namespace NetScript

def Edge.Avoids (edge : Edge) (nodes : List Node) : Prop :=
  ∀ node ∈ nodes, edge.source ≠ node.id ∧ edge.target ≠ node.id

instance (edge : Edge) (nodes : List Node) : Decidable (edge.Avoids nodes) :=
  inferInstanceAs (Decidable (∀ node ∈ nodes, _))

namespace Network

structure Components (a b net : Network) where
  left : Embedding a net 0
  right : Embedding b net a.size
  size_eq : net.size = a.size + b.size

namespace Components

variable {a b net : Network}

theorem ne_of_val {left : Fin a.size → Fin net.size} {right : Fin b.size → Fin net.size}
    (hleft : ∀ i, (left i).val = i.val) (hright : ∀ j, (right j).val = j.val + a.size)
    (i : Fin a.size) (j : Fin b.size) : left i ≠ right j := by
  have hi := hleft i
  have hj := hright j
  intro h
  rw [h] at hi
  omega

theorem ends_ne {left : Fin a.size → Fin net.size} {right : Fin b.size → Fin net.size}
    (h : ∀ i j, left i ≠ right j) (links : List (Fin a.size × Fin a.size)) :
    ∀ link ∈ links.map (Prod.map left left), ∀ j, link.1 ≠ right j ∧ link.2 ≠ right j := by
  simp only [List.mem_map]
  rintro _ ⟨link, -, rfl⟩ j
  exact ⟨h _ j, h _ j⟩

def ofLinks (left : Fin a.size → Fin net.size) (right : Fin b.size → Fin net.size)
    (hsize : net.size = a.size + b.size)
    (hleft : ∀ i, (left i).val = i.val) (hright : ∀ j, (right j).val = j.val + a.size)
    (hnode : ∀ i, net.nodes.get (left i) = a.nodes.get i)
    (hnode' : ∀ j, net.nodes.get (right j) = b.nodes.get j)
    (hlinks : net.links =
      a.links.map (Prod.map left left) ++ b.links.map (Prod.map right right)) :
    Components a b net where
  left :=
    .ofLinks left [] (b.links.map (Prod.map right right)) hleft
      (fun i => congrArg Node.kind (hnode i)) (fun i layer => congrArg layer.call (hnode i)) hlinks
      (ends_ne (fun j i => (ne_of_val hleft hright i j).symm) _)
  right :=
    .ofLinks right (a.links.map (Prod.map left left)) [] hright
      (fun j => congrArg Node.kind (hnode' j)) (fun j layer => congrArg layer.call (hnode' j))
      (by rw [hlinks, List.append_nil])
      (by
        rw [List.append_nil]
        exact ends_ne (ne_of_val hleft hright) _)
  size_eq := hsize

theorem finRange_eq (c : Components a b net) :
    List.finRange net.size =
      (List.finRange a.size).map c.left.node ++ (List.finRange b.size).map c.right.node := by
  apply List.map_injective_iff.mpr Fin.val_injective
  rw [List.map_append, c.left.map_val_node, c.right.map_val_node, List.map_coe_finRange_eq_range,
    c.size_eq, List.range_add]
  simp [Nat.add_comm]

theorem fields_eq (c : Components a b net) :
    (ModelClass.ofNetwork net).fields =
      (ModelClass.ofNetwork a).fields ++
        (ModelClass.ofNetwork b).fields.map (ModelClass.Field.raise a.size) := by
  have hleft := c.left.filterMap_field?_node
  have hright := c.right.filterMap_field?_node
  rw [ModelClass.ofNetwork, c.finRange_eq, List.filterMap_append, hleft, hright]
  simp

theorem entries_eq (c : Components a b net) :
    net.entries = a.entries.map c.left.node ++ b.entries.map c.right.node := by
  have hleft := c.left.filter_isEntry_node
  have hright := c.right.filter_isEntry_node
  rw [entries, c.finRange_eq, List.filter_append, hleft, hright]

theorem forward_eq (c : Components a b net) :
    net.forward =
      { statements :=
          a.forward.statements ++ b.forward.statements.map (Statement.raise a.size)
        result :=
          if b.entries = [] then a.forward.result else b.forward.result.raise a.size } := by
  have hempty : ∀ i, (.empty : Memory net).outputs (c.left.node i) = none := fun _ => rfl
  obtain ⟨memory, results, hforward, -, hvisits⟩ := c.left.exists_descendsAll_entries hempty
  -- The entries of `b` come next, and so far only nodes of `a` are remembered.
  have hfresh : ∀ j, (c.left.place .empty memory).outputs (c.right.node j) = none := by
    intro j
    rw [c.left.outputs_place_of_ne]
    · rfl
    · intro i
      exact ne_of_val c.left.val_node c.right.val_node i j
  obtain ⟨memory', results', hforward', hlength, hvisits'⟩ :=
    c.right.exists_descendsAll_entries hfresh
  have hall := hvisits.append hvisits'
  rw [← c.entries_eq] at hall
  have hstatements : (c.right.place (c.left.place .empty memory) memory').statements =
      memory.statements ++ memory'.statements.map (Statement.raise a.size) := by
    simp [Embedding.place, Memory.empty]
  -- The last visit is one of an entry of `b`, if there is any.
  have hresult :
      (results.map (Ref.raise 0) ++ results'.map (Ref.raise a.size)).getLastD .input =
        if b.entries = [] then results.getLastD .input
        else (results'.getLastD .input).raise a.size := by
    rcases List.eq_nil_or_concat results' with rfl | ⟨init, last, rfl⟩
    · have hentries : b.entries = [] := List.length_eq_zero_iff.mp hlength.symm
      simp [hentries]
    · have hentries : b.entries ≠ [] := by
        intro h
        simp [h] at hlength
      simp [hentries]
  rw [← IsDepthFirst.eq_forward ⟨_, _, hall, rfl⟩, hforward, hforward', hstatements, hresult]

end Components

section

variable {as bs : List Node} {es fs : List Edge}

def leftNode (as bs : List Node) (i : Fin as.length) : Fin (as ++ bs).length :=
  i.castLE (by simp)

def rightNode (as bs : List Node) (i : Fin bs.length) : Fin (as ++ bs).length :=
  (i.natAdd as.length).cast (by simp)

theorem get_leftNode (i : Fin as.length) : (as ++ bs).get (leftNode as bs i) = as.get i := by
  simp [leftNode]

theorem get_rightNode (i : Fin bs.length) : (as ++ bs).get (rightNode as bs i) = bs.get i := by
  simp [rightNode]

theorem locate?_eq_none {nodes : List Node} {id : String} (h : ∀ node ∈ nodes, id ≠ node.id) :
    locate? nodes id = none := by
  unfold locate?
  rw [List.findFinIdx?_eq_none_iff]
  intro node hnode
  simpa using (h node hnode).symm

theorem locate?_of_avoids {edge : Edge} {nodes : List Node} (h : edge.Avoids nodes) :
    locate? nodes edge.source = none ∧ locate? nodes edge.target = none := by
  constructor
  · apply locate?_eq_none
    exact fun node hnode => (h node hnode).1
  · apply locate?_eq_none
    exact fun node hnode => (h node hnode).2

theorem locate?_append (id : String) :
    locate? (as ++ bs) id =
      ((locate? as id).map (leftNode as bs)).or ((locate? bs id).map (rightNode as bs)) := by
  unfold locate?
  rw [List.findFinIdx?_append, Option.map_map]
  rfl

theorem link?_append_left {edge : Edge} (h : edge.Avoids bs) :
    link? (as ++ bs) edge =
      (link? as edge).map (Prod.map (leftNode as bs) (leftNode as bs)) := by
  obtain ⟨hsource, htarget⟩ := locate?_of_avoids h
  apply link?_eq_map
  · simp [locate?_append, hsource]
  · simp [locate?_append, htarget]

theorem link?_append_right {edge : Edge} (h : edge.Avoids as) :
    link? (as ++ bs) edge =
      (link? bs edge).map (Prod.map (rightNode as bs) (rightNode as bs)) := by
  obtain ⟨hsource, htarget⟩ := locate?_of_avoids h
  apply link?_eq_map
  · simp [locate?_append, hsource]
  · simp [locate?_append, htarget]

theorem links_append (hes : ∀ edge ∈ es, edge.Avoids bs) (hfs : ∀ edge ∈ fs, edge.Avoids as) :
    (ofSelected (as ++ bs) (es ++ fs)).links =
      (ofSelected as es).links.map (Prod.map (leftNode as bs) (leftNode as bs)) ++
        (ofSelected bs fs).links.map (Prod.map (rightNode as bs) (rightNode as bs)) := by
  unfold ofSelected
  dsimp only
  rw [List.filterMap_append, List.map_filterMap, List.map_filterMap]
  congr 1
  · apply List.filterMap_congr
    intro edge hedge
    exact link?_append_left (hes edge hedge)
  · apply List.filterMap_congr
    intro edge hedge
    exact link?_append_right (hfs edge hedge)

def Components.ofSelected (hes : ∀ edge ∈ es, edge.Avoids bs) (hfs : ∀ edge ∈ fs, edge.Avoids as) :
    Components (ofSelected as es) (ofSelected bs fs) (ofSelected (as ++ bs) (es ++ fs)) :=
  .ofLinks (leftNode as bs) (rightNode as bs) List.length_append (fun _ => rfl)
    (fun _ => Nat.add_comm _ _) get_leftNode get_rightNode (links_append hes hfs)

end

end Network

namespace Graph

instance : Append Graph where
  append a b := ⟨a.nodes ++ b.nodes, a.edges ++ b.edges⟩

/--
No edge of one of the graphs names a node of the other one.
-/
def Independent (a b : Graph) : Prop :=
  (∀ edge ∈ a.edges, edge.Avoids b.nodes) ∧ ∀ edge ∈ b.edges, edge.Avoids a.nodes

instance (a b : Graph) : Decidable (a.Independent b) :=
  inferInstanceAs (Decidable (_ ∧ _))

end Graph

theorem Edge.Avoids.filter {edge : Edge} {nodes : List Node} (h : edge.Avoids nodes)
    (p : Node → Bool) : edge.Avoids (nodes.filter p) := by
  intro node hnode
  exact h node (List.mem_of_mem_filter hnode)

theorem Network.ofSelected_append (a b : Graph) :
    ofSelected (a.nodes.filter Node.isSelected ++ b.nodes.filter Node.isSelected)
        (a.edges ++ b.edges) =
      ofGraph (a ++ b) := by
  rw [← List.filter_append]
  rfl

/--
The ids of the graphs may overlap, as long as no edge names a shared one.
-/
theorem ModelClass.ofGraph_append {a b : Graph} (h : a.Independent b) :
    (ofGraph (a ++ b)).fields =
        (ofGraph a).fields ++ (ofGraph b).fields.map (Field.raise (Network.ofGraph a).size) ∧
      (ofGraph (a ++ b)).forward.statements =
        (ofGraph a).forward.statements ++
          (ofGraph b).forward.statements.map (Statement.raise (Network.ofGraph a).size) ∧
      (ofGraph (a ++ b)).forward.result =
        if (Network.ofGraph b).entries = [] then (ofGraph a).forward.result
        else (ofGraph b).forward.result.raise (Network.ofGraph a).size := by
  have hleft : ∀ edge ∈ a.edges, edge.Avoids (b.nodes.filter Node.isSelected) :=
    fun edge hedge => (h.1 edge hedge).filter _
  have hright : ∀ edge ∈ b.edges, edge.Avoids (a.nodes.filter Node.isSelected) :=
    fun edge hedge => (h.2 edge hedge).filter _
  have c := Network.Components.ofSelected hleft hright
  rw [Network.ofSelected_append] at c
  refine ⟨c.fields_eq, ?_, ?_⟩
  · exact congrArg Forward.statements c.forward_eq
  · exact congrArg Forward.result c.forward_eq

/--
One of the graphs is a cycle, which has no entry. The other one has a node that is not selected and
one without a layer.
-/
theorem ModelClass.ofGraph_append_of_cycle :
    let chain : Graph := ⟨[.ofKind "a" "linear", .ofKind "e" "mse",
      ⟨"u", "unknown", some .layer, .empty⟩, .ofKind "b" "relu"],
      [.between "a" "u", .between "u" "b", .between "b" "e"]⟩
    let cycle : Graph := ⟨[.ofKind "p" "tanh", .ofKind "q" "tanh"],
      [.between "p" "q", .between "q" "p"]⟩
    (chain.Independent cycle ∧
      (ofGraph (chain ++ cycle)).fields.map (·.ordinal) = [1, 3, 4, 5] ∧
      (ofGraph (chain ++ cycle)).forward.statements =
        [⟨.linear, 1, .input⟩, ⟨.relu, 3, .output 1⟩] ∧
      (ofGraph (chain ++ cycle)).forward.result = .output 3) ∧
    cycle.Independent chain ∧
      (ofGraph (cycle ++ chain)).fields.map (·.ordinal) = [1, 2, 3, 5] ∧
      (ofGraph (cycle ++ chain)).forward.statements =
        [⟨.linear, 3, .input⟩, ⟨.relu, 5, .output 3⟩] ∧
      (ofGraph (cycle ++ chain)).forward.result = .output 5 := by
  intro chain cycle
  have hchain : (ofGraph chain).forward =
      ⟨[⟨.linear, 1, .input⟩, ⟨.relu, 3, .output 1⟩], .output 3⟩ := by cbv
  have hcycle : (ofGraph cycle).forward = ⟨[], .input⟩ := by cbv
  have hfirst : chain.Independent cycle := by decide
  have hlast : cycle.Independent chain := by decide
  obtain ⟨hfields, hstatements, hresult⟩ := ofGraph_append hfirst
  obtain ⟨hfields', hstatements', hresult'⟩ := ofGraph_append hlast
  rw [hchain, hcycle] at hstatements hresult hstatements' hresult'
  refine ⟨⟨hfirst, ?_, hstatements, hresult⟩, hlast, ?_, hstatements', hresult'⟩
  · rw [hfields]
    rfl
  · rw [hfields']
    rfl

end NetScript
