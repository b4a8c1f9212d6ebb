import Mathlib.Data.List.FinRange
import Mathlib.Logic.Function.Basic
import NetScript.Proofs.Forward.Recursion
import NetScript.Script.ModelClass

/-!
This module contains the embedding of a network into another one: its nodes keep their layers, their
children and their order, and all ordinals are raised by the same distance. The main statement is
that a visit of the network is a visit of the other one as well, whatever was visited there before.
-/

namespace NetScript

def Ref.raise (distance : Nat) : Ref → Ref
  | input => input
  | output ordinal => output (ordinal + distance)

def Statement.raise (distance : Nat) (s : Statement) : Statement where
  layer := s.layer
  ordinal := s.ordinal + distance
  argument := s.argument.raise distance

def ModelClass.Field.raise (distance : Nat) (field : ModelClass.Field) : ModelClass.Field where
  layer := field.layer
  ordinal := field.ordinal + distance
  call := field.call

@[simp]
theorem Ref.raise_zero : Ref.raise 0 = id := by
  funext ref
  cases ref <;> rfl

@[simp]
theorem Statement.raise_zero : Statement.raise 0 = id := by
  funext s
  simp [Statement.raise]

@[simp]
theorem ModelClass.Field.raise_zero : ModelClass.Field.raise 0 = id :=
  rfl

namespace Network

theorem link?_eq_map {nodes nodes' : List Node} {node : Fin nodes.length → Fin nodes'.length}
    {edge edge' : Edge}
    (hsource : locate? nodes' edge'.source = (locate? nodes edge.source).map node)
    (htarget : locate? nodes' edge'.target = (locate? nodes edge.target).map node) :
    link? nodes' edge' = (link? nodes edge).map (Prod.map node node) := by
  unfold link?
  rw [hsource, htarget]
  cases locate? nodes edge.source <;> cases locate? nodes edge.target <;> rfl

/--
The nodes of `part` as nodes of `net`, which has no further links from or to them.
-/
structure Embedding (part net : Network) (distance : Nat) where
  node : Fin part.size → Fin net.size
  val_node : ∀ i, (node i).val = i.val + distance
  kind_node : ∀ i, (net.nodes.get (node i)).kind = (part.nodes.get i).kind
  call_node : ∀ i (layer : Layer),
    layer.call (net.nodes.get (node i)) = layer.call (part.nodes.get i)
  children_node : ∀ i, net.children (node i) = (part.children i).map node
  isEntry_node : ∀ i, net.isEntry (node i) = part.isEntry i

section

variable {part net : Network} {distance : Nat} {node : Fin part.size → Fin net.size}
variable {before after : List (Fin net.size × Fin net.size)}

theorem injective_of_val (hval : ∀ i, (node i).val = i.val + distance) :
    Function.Injective node := by
  intro i j h
  have hij : i.val + distance = j.val + distance := by rw [← hval, ← hval, h]
  apply Fin.ext
  omega

theorem children_of_links_eq (hnode : Function.Injective node)
    (hlinks : net.links = before ++ part.links.map (Prod.map node node) ++ after)
    (houtside : ∀ link ∈ before ++ after, ∀ i, link.1 ≠ node i ∧ link.2 ≠ node i)
    (i : Fin part.size) : net.children (node i) = (part.children i).map node := by
  have hbefore : before.filter (·.1 = node i) = [] := by
    rw [List.filter_eq_nil_iff]
    intro link hlink
    simpa using (houtside link (List.mem_append_left _ hlink) i).1
  have hafter : after.filter (·.1 = node i) = [] := by
    rw [List.filter_eq_nil_iff]
    intro link hlink
    simpa using (houtside link (List.mem_append_right _ hlink) i).1
  unfold children
  rw [hlinks, List.filter_append, List.filter_append, hbefore, hafter, List.nil_append,
    List.append_nil, List.filter_map, List.map_map, List.map_map]
  simp [Function.comp_def, hnode.eq_iff]

theorem isEntry_of_links_eq (hnode : Function.Injective node)
    (hlinks : net.links = before ++ part.links.map (Prod.map node node) ++ after)
    (houtside : ∀ link ∈ before ++ after, ∀ i, link.1 ≠ node i ∧ link.2 ≠ node i)
    (i : Fin part.size) : net.isEntry (node i) = part.isEntry i := by
  have hbefore : before.all (·.2 ≠ node i) = true := by
    rw [List.all_eq_true]
    intro link hlink
    simpa using (houtside link (List.mem_append_left _ hlink) i).2
  have hafter : after.all (·.2 ≠ node i) = true := by
    rw [List.all_eq_true]
    intro link hlink
    simpa using (houtside link (List.mem_append_right _ hlink) i).2
  unfold isEntry
  rw [hlinks, List.all_append, List.all_append, hbefore, hafter, Bool.true_and, Bool.and_true,
    List.all_map]
  simp [Function.comp_def, hnode.eq_iff]

def Embedding.ofLinks (node : Fin part.size → Fin net.size)
    (before after : List (Fin net.size × Fin net.size))
    (hval : ∀ i, (node i).val = i.val + distance)
    (hkind : ∀ i, (net.nodes.get (node i)).kind = (part.nodes.get i).kind)
    (hcall : ∀ i (layer : Layer),
      layer.call (net.nodes.get (node i)) = layer.call (part.nodes.get i))
    (hlinks : net.links = before ++ part.links.map (Prod.map node node) ++ after)
    (houtside : ∀ link ∈ before ++ after, ∀ i, link.1 ≠ node i ∧ link.2 ≠ node i) :
    Embedding part net distance where
  node
  val_node := hval
  kind_node := hkind
  call_node := hcall
  children_node := children_of_links_eq (injective_of_val hval) hlinks houtside
  isEntry_node := isEntry_of_links_eq (injective_of_val hval) hlinks houtside

end

namespace Embedding

variable {part net : Network} {distance : Nat} (e : Embedding part net distance)

theorem node_injective : Function.Injective e.node :=
  injective_of_val e.val_node

theorem map_val_node :
    ((List.finRange part.size).map e.node).map Fin.val =
      (List.range part.size).map (· + distance) := by
  rw [← List.map_coe_finRange_eq_range, List.map_map, List.map_map]
  apply List.map_congr_left
  intro i _
  exact e.val_node i

theorem ordinal_node (i : Fin part.size) : net.ordinal (e.node i) = part.ordinal i + distance := by
  unfold ordinal
  rw [e.val_node]
  omega

theorem layer?_node (i : Fin part.size) : net.layer? (e.node i) = part.layer? i := by
  unfold layer? Node.layer?
  rw [e.kind_node]

theorem raise_output (i : Fin part.size) :
    (Ref.output (part.ordinal i)).raise distance = .output (net.ordinal (e.node i)) := by
  rw [ordinal_node]
  rfl

theorem raise_statement (i : Fin part.size) (layer : Layer) (argument : Ref) :
    (Statement.mk layer (part.ordinal i) argument).raise distance =
      ⟨layer, net.ordinal (e.node i), argument.raise distance⟩ := by
  rw [ordinal_node]
  rfl

theorem field?_node (i : Fin part.size) :
    ModelClass.field? net (e.node i) =
      (ModelClass.field? part i).map (ModelClass.Field.raise distance) := by
  unfold ModelClass.field?
  rw [layer?_node, Option.map_map]
  congr 1
  funext layer
  rw [Function.comp_apply, ModelClass.Field.raise, ordinal_node, e.call_node]

/--
What is remembered of the part, in addition to what was remembered of the network before.
-/
noncomputable def place (base : Memory net) (memory : Memory part) : Memory net where
  outputs := Function.extend e.node (fun i => (memory.outputs i).map (Ref.raise distance))
    base.outputs
  statements := base.statements ++ memory.statements.map (Statement.raise distance)

theorem outputs_place_node (base : Memory net) (memory : Memory part) (i : Fin part.size) :
    (e.place base memory).outputs (e.node i) = (memory.outputs i).map (Ref.raise distance) := by
  unfold place
  dsimp only
  rw [e.node_injective.extend_apply]

theorem outputs_place_of_ne (base : Memory net) (memory : Memory part) {j : Fin net.size}
    (h : ∀ i, e.node i ≠ j) : (e.place base memory).outputs j = base.outputs j := by
  unfold place
  dsimp only
  rw [Function.extend_apply']
  simpa using h

theorem place_empty {base : Memory net} (h : ∀ i, base.outputs (e.node i) = none) :
    e.place base .empty = base := by
  have houtputs : (e.place base .empty).outputs = base.outputs := by
    funext j
    by_cases hj : ∃ i, e.node i = j
    · obtain ⟨i, rfl⟩ := hj
      rw [outputs_place_node, h]
      rfl
    · apply outputs_place_of_ne
      simpa using hj
  have hstatements : (e.place base .empty).statements = base.statements := by
    simp [place, Memory.empty]
  exact congrArg₂ Memory.mk houtputs hstatements

theorem place_emit (base : Memory net) (memory : Memory part) (s : Statement) :
    e.place base (memory.emit s) = (e.place base memory).emit (s.raise distance) := by
  simp [place, Memory.emit]

theorem place_remember (base : Memory net) (memory : Memory part) (i : Fin part.size)
    (output : Ref) :
    e.place base (memory.remember i output) =
      (e.place base memory).remember (e.node i) (output.raise distance) := by
  have houtputs : (e.place base (memory.remember i output)).outputs =
      Function.update (e.place base memory).outputs (e.node i) (some (output.raise distance)) := by
    funext j
    -- Nodes of the part are looked up in the part, all others in the network around it.
    by_cases hj : ∃ k, e.node k = j
    · obtain ⟨k, rfl⟩ := hj
      rw [outputs_place_node]
      by_cases hk : k = i
      · subst hk
        simp [Memory.remember]
      · rw [Function.update_of_ne (e.node_injective.ne hk), outputs_place_node]
        simp [Memory.remember, hk]
    · have hj : ∀ k, e.node k ≠ j := by simpa using hj
      rw [outputs_place_of_ne _ _ _ hj, Function.update_of_ne (hj i).symm,
        outputs_place_of_ne _ _ _ hj]
  unfold Memory.remember
  rw [← houtputs]
  rfl

end Embedding

variable {part net : Network} {distance : Nat}

theorem getLastD_map_raise (results : List Ref) (last : Ref) :
    (results.map (Ref.raise distance)).getLastD (last.raise distance) =
      (results.getLastD last).raise distance := by
  rw [List.getLastD_eq_getLast?, List.getLastD_eq_getLast?, List.getLast?_map, Option.getD_map]

-- A derivation is moved rule by rule, with the numbers of all its nodes raised.
mutual

theorem Descends.place {memory memory' : Memory part} {i : Fin part.size} {argument result : Ref}
    (e : Embedding part net distance) (base : Memory net) :
    Descends part memory i argument memory' result →
      Descends net (e.place base memory) (e.node i) (argument.raise distance)
        (e.place base memory') (result.raise distance)
  | .revisit hvisited => by
    apply Descends.revisit
    rw [e.outputs_place_node, hvisited]
    rfl
  | .layer hnew hlayer hchildren => by
    have hchildren := hchildren.place e base
    rw [e.place_remember, e.place_emit, e.raise_statement, e.raise_output,
      ← e.children_node] at hchildren
    rw [← getLastD_map_raise, e.raise_output]
    apply Descends.layer
    · rw [e.outputs_place_node, hnew]
      rfl
    · rw [e.layer?_node, hlayer]
    · exact hchildren
  | .other hnew hlayer hchildren => by
    have hchildren := hchildren.place e base
    rw [e.place_remember, ← e.children_node] at hchildren
    rw [← getLastD_map_raise]
    apply Descends.other
    · rw [e.outputs_place_node, hnew]
      rfl
    · rw [e.layer?_node, hlayer]
    · exact hchildren

theorem DescendsAll.place {memory memory' : Memory part} {nodes : List (Fin part.size)}
    {argument : Ref} {results : List Ref} (e : Embedding part net distance) (base : Memory net) :
    DescendsAll part memory nodes argument memory' results →
      DescendsAll net (e.place base memory) (nodes.map e.node) (argument.raise distance)
        (e.place base memory') (results.map (Ref.raise distance))
  | .nil => .nil
  | .cons hfirst hrest => .cons (hfirst.place e base) (hrest.place e base)

end

theorem DescendsAll.length_results {memory memory' : Memory net} {nodes : List (Fin net.size)}
    {argument : Ref} {results : List Ref} :
    DescendsAll net memory nodes argument memory' results → results.length = nodes.length
  | .nil => rfl
  | .cons _ hrest => by rw [List.length_cons, List.length_cons, hrest.length_results]

theorem DescendsAll.append {memory memory' memory'' : Memory net}
    {nodes nodes' : List (Fin net.size)} {argument : Ref} {results results' : List Ref} :
    DescendsAll net memory nodes argument memory' results →
      DescendsAll net memory' nodes' argument memory'' results' →
        DescendsAll net memory (nodes ++ nodes') argument memory'' (results ++ results')
  | .nil, h => h
  | .cons hfirst hrest, h => .cons hfirst (hrest.append h)

namespace Embedding

variable (e : Embedding part net distance)

theorem exists_descendsAll_entries {base : Memory net} (h : ∀ i, base.outputs (e.node i) = none) :
    ∃ (memory : Memory part) (results : List Ref),
      part.forward = ⟨memory.statements, results.getLastD .input⟩ ∧
      results.length = part.entries.length ∧
      DescendsAll net base (part.entries.map e.node) .input (e.place base memory)
        (results.map (Ref.raise distance)) := by
  obtain ⟨memory, results, hentries, hforward⟩ := isDepthFirst_forward part
  refine ⟨memory, results, hforward, hentries.length_results, ?_⟩
  have hplaced := hentries.place e base
  rw [e.place_empty h] at hplaced
  exact hplaced

theorem filter_isEntry_node :
    ((List.finRange part.size).map e.node).filter net.isEntry = part.entries.map e.node := by
  rw [List.filter_map]
  congr 2
  funext i
  exact e.isEntry_node i

theorem filterMap_field?_node :
    ((List.finRange part.size).map e.node).filterMap (ModelClass.field? net) =
      (ModelClass.ofNetwork part).fields.map (ModelClass.Field.raise distance) := by
  rw [List.filterMap_map, ModelClass.ofNetwork, List.map_filterMap]
  congr 1
  funext i
  exact e.field?_node i

theorem ofNetwork_eq (e : Embedding part net 0) (hsize : net.size = part.size) :
    ModelClass.ofNetwork net = ModelClass.ofNetwork part := by
  have hnodes : List.finRange net.size = (List.finRange part.size).map e.node := by
    apply List.map_injective_iff.mpr Fin.val_injective
    rw [e.map_val_node, List.map_coe_finRange_eq_range, hsize]
    simp
  have hfields : (ModelClass.ofNetwork net).fields = (ModelClass.ofNetwork part).fields := by
    rw [ModelClass.ofNetwork, hnodes, e.filterMap_field?_node]
    simp
  have hentries : net.entries = part.entries.map e.node := by
    rw [entries, hnodes, e.filter_isEntry_node]
  have hforward : net.forward = part.forward := by
    -- The forward pass is determined by its derivation, so the derivation of `part` is moved.
    have hempty : ∀ i, (.empty : Memory net).outputs (e.node i) = none := fun _ => rfl
    obtain ⟨memory, results, hforward, -, hvisits⟩ := e.exists_descendsAll_entries hempty
    rw [← hentries] at hvisits
    rw [← IsDepthFirst.eq_forward ⟨_, _, hvisits, rfl⟩, hforward]
    simp [place, Memory.empty]
  exact congrArg₂ ModelClass.mk hfields hforward

end Embedding

end Network

end NetScript
