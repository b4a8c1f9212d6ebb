import NetScript.Script.Basic

/-!
This module contains the order of the nodes of a graph. The main statement is that the script does
not change with it as long as the selected nodes, the optimizers and the losses stay in order, each
among themselves, and that the model is made of the selected nodes alone.
-/

namespace NetScript

/--
The same nodes in an order that may only differ between nodes of different roles.
-/
structure Node.Rearranged (nodes nodes' : List Node) : Prop where
  perm : nodes'.Perm nodes
  selected : nodes'.filter Node.isSelected = nodes.filter Node.isSelected
  optimizers : nodes'.filter (·.effectiveCategory = some .optimizer) =
    nodes.filter (·.effectiveCategory = some .optimizer)
  losses : nodes'.filter (·.effectiveCategory = some .loss) =
    nodes.filter (·.effectiveCategory = some .loss)

variable {nodes nodes' : List Node}

theorem Preamble.render_perm (h : nodes'.Perm nodes) : render nodes' = render nodes := by
  have hneeded : isNeeded nodes' = isNeeded nodes := by
    funext kinds
    exact h.any_eq
  unfold render lines
  rw [hneeded]

namespace Training

theorem first?_congr {category : Category}
    (h : nodes'.filter (·.effectiveCategory = some category) =
      nodes.filter (·.effectiveCategory = some category)) :
    first? nodes' category = first? nodes category := by
  unfold first?
  rw [← List.head?_filter, ← List.head?_filter, h]

theorem ofNodes_rearranged (h : Node.Rearranged nodes nodes') : ofNodes nodes' = ofNodes nodes := by
  have hoptimizer := first?_congr h.optimizers
  have hloss := first?_congr h.losses
  unfold ofNodes criterionCode optimizerCode
  rw [hoptimizer, hloss, h.perm.any_eq]

end Training

theorem ModelClass.ofGraph_congr_nodes
    (h : nodes'.filter Node.isSelected = nodes.filter Node.isSelected) (edges : List Edge) :
    ofGraph ⟨nodes', edges⟩ = ofGraph ⟨nodes, edges⟩ := by
  unfold ofGraph Network.ofGraph
  dsimp only
  rw [h]

namespace Script

theorem ofGraph_rearranged (h : Node.Rearranged nodes nodes') (edges : List Edge) :
    ofGraph ⟨nodes', edges⟩ = ofGraph ⟨nodes, edges⟩ := by
  unfold ofGraph
  rw [Preamble.render_perm h.perm, ModelClass.ofGraph_congr_nodes h.selected,
    Training.ofNodes_rearranged h]

/--
Nodes of other roles may be anywhere, and the model does without them.
-/
theorem compile_rearranged (nodes : List Node) (edges : List Edge) :
    (∀ nodes', Node.Rearranged nodes nodes' →
      compile (some ⟨nodes', edges⟩) = compile (some ⟨nodes, edges⟩)) ∧
    (compile (some ⟨nodes.filter Node.isSelected, edges⟩)).map Script.model =
      (compile (some ⟨nodes, edges⟩)).map Script.model := by
  constructor
  · intro nodes' h
    unfold compile
    dsimp only
    rw [ofGraph_rearranged h]
  · have hselected : (nodes.filter Node.isSelected).filter Node.isSelected =
        nodes.filter Node.isSelected := by
      rw [List.filter_filter]
      simp
    have hmodel := ModelClass.ofGraph_congr_nodes hselected edges
    unfold compile ofGraph
    dsimp only [Except.map]
    rw [hmodel]

/--
A loss and an optimizer change places with selected nodes, one of which has the id of the loss.
-/
theorem compile_rearranged_of_shared_id :
    let loss : Node := .ofKind "a" "mse"
    let loss' : Node := .ofKind "l" "crossEntropy"
    let optimizer : Node := .ofKind "o" "sgd"
    let layer : Node := .ofKind "a" "linear"
    let other : Node := .ofKind "v" "visualize"
    let activation : Node := .ofKind "b" "relu"
    let nodes := [loss, optimizer, layer, other, activation, loss']
    let nodes' := [other, layer, loss, activation, loss', optimizer]
    let edges : List Edge := [.between "a" "b", .between "o" "a"]
    Node.Rearranged nodes nodes' ∧
      compile (some ⟨nodes', edges⟩) = compile (some ⟨nodes, edges⟩) := by
  intro loss loss' optimizer layer other activation nodes nodes' edges
  have h : Node.Rearranged nodes nodes' := by
    have hplaces : [3, 2, 0, 4, 5, 1].Perm (List.finRange 6) := by decide
    constructor
    · exact hplaces.map nodes.get
    · rfl
    · rfl
    · rfl
  exact ⟨h, (compile_rearranged nodes edges).1 nodes' h⟩

end Script

end NetScript
