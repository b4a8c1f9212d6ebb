import NetScript.Node.Canonical
import NetScript.Proofs.Forward.Embedding
import NetScript.Script.Basic

/-!
This module contains the changes of nodes that make no difference. The main statement is that the
script stays the same if each node is replaced by one of the same kind and category in which the
same settings are of use, and ids are renamed without a clash.
-/

namespace NetScript

/--
The nodes only differ in their ids and in settings that are of no use.
-/
structure Node.Interchangeable (a b : Node) : Prop where
  kind_eq : a.kind = b.kind
  category_eq : a.category = b.category
  useful?_eq : a.useful? = b.useful?

/--
The ends of the edge are renamed. Its id may be replaced by any other one.
-/
structure Edge.Renamed (f : String → String) (edge edge' : Edge) : Prop where
  source_eq : edge'.source = f edge.source
  target_eq : edge'.target = f edge.target

/-! A setting of the wrong shape counts as if it was missing. -/

section

variable {node : Node} {key : String}

theorem Node.numberD_of_mistyped (h : ∀ setting ∈ node.setting? key, setting.isNumber = false)
    (default : Binary64) : node.numberD key default = default := by
  unfold numberD
  cases hsetting : node.setting? key with
  | none => rfl
  | some setting =>
    have hnone : setting.asNumber? = none := by simpa [Setting.isNumber] using h setting hsetting
    simp [hnone]

theorem Node.boolD_of_mistyped (h : ∀ setting ∈ node.setting? key, setting.isBool = false)
    (default : Bool) : node.boolD key default = default := by
  unfold boolD
  cases hsetting : node.setting? key with
  | none => rfl
  | some setting =>
    have hnone : setting.asBool? = none := by simpa [Setting.isBool] using h setting hsetting
    simp [hnone]

theorem Layer.size_of_mistyped (h : ∀ setting ∈ node.setting? key, setting.isSize = false)
    (default : Binary64) : size node key default = .number default := by
  unfold size
  cases hsetting : node.setting? key with
  | none => rfl
  | some setting =>
    have htakes := h setting hsetting
    cases setting with
    | number | list => cases htakes
    | bool | text | other => rfl

theorem Layer.keyword?_of_mistyped (allowsText : Bool)
    (hsize : ∀ setting ∈ node.setting? key, setting.isSize = false)
    (htext : allowsText → ∀ setting ∈ node.setting? key, setting.isText = false)
    (default : Binary64) : keyword? node key default allowsText = none := by
  unfold keyword?
  cases hsetting : node.setting? key with
  | none => rfl
  | some setting =>
    have htakes := hsize setting hsetting
    cases setting with
    | number | list => cases htakes
    | text s =>
      cases allowsText with
      | false => rfl
      | true => cases htext rfl _ hsetting
    | bool | other => rfl

end

namespace Node.Interchangeable

variable {a b : Node}

theorem effectiveCategory_eq (h : a.Interchangeable b) :
    a.effectiveCategory = b.effectiveCategory := by
  rw [effectiveCategory, effectiveCategory, h.category_eq, h.kind_eq]

theorem isSelected_eq (h : a.Interchangeable b) : a.isSelected = b.isSelected := by
  rw [isSelected, isSelected, h.effectiveCategory_eq]

theorem setting?_cases (h : a.Interchangeable b) {key : String} {takes : Setting → Bool}
    (hkey : lookedUp.lookup key = some takes) :
    a.setting? key = b.setting? key ∨
      (∀ setting ∈ a.setting? key, takes setting = false) ∧
        ∀ setting ∈ b.setting? key, takes setting = false := by
  have huseful := congrFun h.useful?_eq key
  rw [useful?, useful?, hkey, Option.bind_some, Option.bind_some] at huseful
  -- Either both nodes have the same setting of use, or neither has one.
  cases hfound : (b.setting? key).filter takes with
  | none =>
    rw [hfound] at huseful
    simp only [Option.filter_eq_none_iff, Bool.not_eq_true] at hfound huseful
    exact .inr ⟨huseful, hfound⟩
  | some setting =>
    rw [hfound] at huseful
    rw [Option.filter_eq_some_iff] at hfound huseful
    exact .inl (huseful.1.trans hfound.1.symm)

theorem numberD_eq (h : a.Interchangeable b) (key : String)
    (hkey : lookedUp.lookup key = some Setting.isNumber) (default : Binary64) :
    a.numberD key default = b.numberD key default := by
  rcases h.setting?_cases hkey with heq | ⟨ha, hb⟩
  · rw [numberD, numberD, heq]
  · rw [numberD_of_mistyped ha, numberD_of_mistyped hb]

theorem boolD_eq (h : a.Interchangeable b) (key : String)
    (hkey : lookedUp.lookup key = some Setting.isBool) (default : Bool) :
    a.boolD key default = b.boolD key default := by
  rcases h.setting?_cases hkey with heq | ⟨ha, hb⟩
  · rw [boolD, boolD, heq]
  · rw [boolD_of_mistyped ha, boolD_of_mistyped hb]

theorem size_eq (h : a.Interchangeable b) (key : String)
    (hkey : lookedUp.lookup key = some Setting.isSize) (default : Binary64) :
    Layer.size a key default = Layer.size b key default := by
  rcases h.setting?_cases hkey with heq | ⟨ha, hb⟩
  · rw [Layer.size, Layer.size, heq]
  · rw [Layer.size_of_mistyped ha, Layer.size_of_mistyped hb]

theorem keyword?_eq (h : a.Interchangeable b) (key : String)
    (hkey : lookedUp.lookup key = some Setting.isSize) (default : Binary64) :
    Layer.keyword? a key default false = Layer.keyword? b key default false := by
  rcases h.setting?_cases hkey with heq | ⟨ha, hb⟩
  · rw [Layer.keyword?, Layer.keyword?, heq]
  · rw [Layer.keyword?_of_mistyped false ha nofun, Layer.keyword?_of_mistyped false hb nofun]

theorem keyword?_eq_of_text (h : a.Interchangeable b) (key : String)
    (hkey : lookedUp.lookup key = some Setting.isPadding) (default : Binary64) :
    Layer.keyword? a key default true = Layer.keyword? b key default true := by
  rcases h.setting?_cases hkey with heq | ⟨ha, hb⟩
  · rw [Layer.keyword?, Layer.keyword?, heq]
  · simp only [Setting.isPadding, Bool.or_eq_false_iff] at ha hb
    rw [Layer.keyword?_of_mistyped true (fun s hs => (ha s hs).1) fun _ s hs => (ha s hs).2,
      Layer.keyword?_of_mistyped true (fun s hs => (hb s hs).1) fun _ s hs => (hb s hs).2]

theorem call_eq (h : a.Interchangeable b) (layer : Layer) : layer.call a = layer.call b := by
  cases layer with
  | linear =>
    simp only [Layer.call, h.numberD_eq "in_features" rfl, h.numberD_eq "out_features" rfl,
      h.boolD_eq "bias" rfl]
  | conv2d =>
    simp only [Layer.call, h.numberD_eq "in_channels" rfl, h.numberD_eq "out_channels" rfl,
      h.size_eq "kernel_size" rfl, h.keyword?_eq "stride" rfl, h.keyword?_eq_of_text "padding" rfl]
  | lstm =>
    simp only [Layer.call, h.numberD_eq "input_size" rfl, h.numberD_eq "hidden_size" rfl]
  | relu | sigmoid | tanh => rfl

end Node.Interchangeable

variable {f : String → String} {g : Node → Node}

namespace Network

variable {nodes : List Node} {edges edges' : List Edge}

def mappedNode (g : Node → Node) (nodes : List Node) (i : Fin nodes.length) :
    Fin (nodes.map g).length :=
  i.cast (by simp)

theorem get_mappedNode (i : Fin nodes.length) :
    (nodes.map g).get (mappedNode g nodes i) = g (nodes.get i) := by
  simp [mappedNode]

theorem locate?_map (hf : Function.Injective f) (hid : ∀ node, (g node).id = f node.id)
    (id : String) : locate? (nodes.map g) (f id) = (locate? nodes id).map (mappedNode g nodes) := by
  apply Option.map_injective Fin.val_injective
  unfold locate?
  rw [← List.findIdx?_eq_map_findFinIdx?_val, List.findIdx?_map, Option.map_map]
  simp [Function.comp_def, hid, hf.eq_iff, mappedNode, List.findIdx?_eq_map_findFinIdx?_val]

theorem link?_map (hf : Function.Injective f) (hid : ∀ node, (g node).id = f node.id)
    {edge edge' : Edge} (h : edge.Renamed f edge') :
    link? (nodes.map g) edge' =
      (link? nodes edge).map (Prod.map (mappedNode g nodes) (mappedNode g nodes)) := by
  apply link?_eq_map
  · rw [h.source_eq, locate?_map hf hid]
  · rw [h.target_eq, locate?_map hf hid]

theorem links_map (hf : Function.Injective f) (hid : ∀ node, (g node).id = f node.id)
    (h : List.Forall₂ (Edge.Renamed f) edges edges') :
    (ofSelected (nodes.map g) edges').links =
      (ofSelected nodes edges).links.map (Prod.map (mappedNode g nodes) (mappedNode g nodes)) := by
  unfold ofSelected
  dsimp only
  induction h with
  | nil => rfl
  | @cons edge _ _ _ hedge _ ih =>
    rw [List.filterMap_cons, List.filterMap_cons, link?_map hf hid hedge]
    cases link? nodes edge with
    | none => exact ih
    | some link =>
      dsimp only [Option.map_some]
      rw [ih]
      rfl

def Embedding.ofMapped (hf : Function.Injective f) (hid : ∀ node, (g node).id = f node.id)
    (hg : ∀ node, (g node).Interchangeable node) (h : List.Forall₂ (Edge.Renamed f) edges edges') :
    Embedding (ofSelected nodes edges) (ofSelected (nodes.map g) edges') 0 :=
  .ofLinks (mappedNode g nodes) [] [] (fun _ => rfl)
    (fun i => (congrArg Node.kind (get_mappedNode i)).trans (hg _).kind_eq)
    (fun i layer => (congrArg layer.call (get_mappedNode i)).trans ((hg _).call_eq layer))
    (by
      rw [List.nil_append, List.append_nil]
      exact links_map hf hid h)
    (by simp)

end Network

section

variable (hg : ∀ node, (g node).Interchangeable node)

include hg

theorem filter_isSelected_map (nodes : List Node) :
    (nodes.map g).filter Node.isSelected = (nodes.filter Node.isSelected).map g := by
  rw [List.filter_map]
  congr 2
  funext node
  exact (hg node).isSelected_eq

theorem ModelClass.ofGraph_map (hf : Function.Injective f) (hid : ∀ node, (g node).id = f node.id)
    {nodes : List Node} {edges edges' : List Edge}
    (h : List.Forall₂ (Edge.Renamed f) edges edges') :
    ofGraph ⟨nodes.map g, edges'⟩ = ofGraph ⟨nodes, edges⟩ := by
  unfold ofGraph Network.ofGraph
  dsimp only
  rw [filter_isSelected_map hg]
  apply (Network.Embedding.ofMapped hf hid hg h).ofNetwork_eq
  apply List.length_map

theorem Preamble.render_map (nodes : List Node) : render (nodes.map g) = render nodes := by
  have hneeded : isNeeded (nodes.map g) = isNeeded nodes := by
    funext kinds
    unfold isNeeded
    rw [List.any_map]
    congr 1
    funext node
    rw [Function.comp_apply, (hg node).kind_eq]
  unfold render lines
  rw [hneeded]

namespace Training

theorem first?_map (nodes : List Node) (category : Category) :
    first? (nodes.map g) category = (first? nodes category).map g := by
  unfold first?
  rw [List.find?_map]
  congr 2
  funext node
  rw [Function.comp_apply, (hg node).effectiveCategory_eq]

theorem criterionCode_map (nodes : List Node) :
    criterionCode (nodes.map g) = criterionCode nodes := by
  unfold criterionCode
  rw [first?_map hg]
  cases first? nodes .loss with
  | none => rfl
  | some node =>
    rw [Option.map_some]
    dsimp only
    rw [(hg node).kind_eq]

theorem optimizerCode_map (nodes : List Node) :
    optimizerCode (nodes.map g) = optimizerCode nodes := by
  unfold optimizerCode
  rw [first?_map hg]
  cases first? nodes .optimizer with
  | none => rfl
  | some node =>
    rw [Option.map_some]
    dsimp only
    rw [(hg node).kind_eq, (hg node).numberD_eq "lr" rfl, (hg node).numberD_eq "lr" rfl,
      (hg node).numberD_eq "momentum" rfl]

theorem ofNodes_map (nodes : List Node) : ofNodes (nodes.map g) = ofNodes nodes := by
  have hkinds : (fun node => decide (node.kind = "imageInput")) ∘ g =
      fun node => decide (node.kind = "imageInput") := by
    funext node
    rw [Function.comp_apply, (hg node).kind_eq]
  unfold ofNodes
  rw [criterionCode_map hg, optimizerCode_map hg, List.any_map, hkinds]

end Training

theorem Script.ofGraph_map (hf : Function.Injective f) (hid : ∀ node, (g node).id = f node.id)
    {nodes : List Node} {edges edges' : List Edge}
    (h : List.Forall₂ (Edge.Renamed f) edges edges') :
    ofGraph ⟨nodes.map g, edges'⟩ = ofGraph ⟨nodes, edges⟩ := by
  unfold ofGraph
  dsimp only
  rw [ModelClass.ofGraph_map hg hf hid h, Preamble.render_map hg, Training.ofNodes_map hg]

end

end NetScript
