import Mathlib.Data.Finset.Dedup
import NetScript.Proofs.Code.Qualifier
import NetScript.Proofs.Script.Source

/-!
This module contains the imports of a script. They depend on the kinds of the nodes alone, and they
grow with them. The main statement is that they are enough: all modules that the rest of the script
refers to are imported.
-/

namespace NetScript

open Code

/--
The kinds of the nodes, without regard to their order, their number and all else about them.
-/
def Graph.kinds (graph : Graph) : Finset String :=
  (graph.nodes.map Node.kind).toFinset

namespace Text

theorem dropReturn_of_isPlainText {line : String} (h : isPlainText line) :
    dropReturn line.toList = line.toList := by
  unfold dropReturn
  rw [if_neg]
  intro hlast
  have hplain := isPlainText_iff.mp h _ (List.mem_of_getLast? hlast)
  contradiction

theorem lines_of_split {s : String} (last : String) {lines : List String}
    (hsplit : split '\n' s.toList = lines.map String.toList ++ [last.toList])
    (h : ∀ line ∈ lines, isPlainText line) :
    Text.lines s = lines ++ if last = "" then [] else [last] := by
  have hlines : (lines.map String.toList).map dropReturn = lines.map String.toList := by
    rw [List.map_map]
    exact List.map_congr_left fun line hline => dropReturn_of_isPlainText (h line hline)
  unfold Text.lines
  rw [hsplit]
  dsimp only
  rw [List.dropLast_concat, List.getLast?_concat, hlines, List.map_append, List.map_map]
  split
  · next hlast => simp [hlast]
  · next hlast => simp [hlast]

theorem lines_unlines {lines : List String} (h : ∀ line ∈ lines, isPlainText line) :
    Text.lines (unlines lines) = lines := by
  have hsplit := split_unlines fun line hline => newline_not_mem (h line hline)
  rw [lines_of_split "" hsplit h]
  simp

theorem lines_intercalate {lines : List String} (hblock : Block lines)
    (h : ∀ line ∈ lines, isPlainText line) : Text.lines ("\n".intercalate lines) = lines := by
  have hsplit := split_intercalate hblock.ne_nil hblock.newline_not_mem
  obtain ⟨before, last, rfl, hlast⟩ := hblock.exists_eq_concat
  rw [List.map_append] at hsplit
  rw [lines_of_split last hsplit fun line hline => h line (List.mem_append_left _ hline),
    if_neg (ne_empty_of_endsVisibly hlast)]

end Text

namespace Preamble

variable {graph graph' : Graph}

theorem isNeeded_iff {kinds : List String} :
    isNeeded graph.nodes kinds ↔ ∃ kind ∈ graph.kinds, kind ∈ kinds := by
  simp [isNeeded, Graph.kinds]

theorem lines_render (nodes : List Node) : Text.lines (render nodes) = lines nodes :=
  Text.lines_intercalate (block_lines nodes) fun _ hline => (visible_of_mem_lines hline).1

theorem lines_sublist (h : graph.kinds ⊆ graph'.kinds) :
    (lines graph.nodes).Sublist (lines graph'.nodes) := by
  apply List.Sublist.append_left
  apply List.Sublist.map
  apply List.monotone_filter_right
  rintro ⟨kinds, line⟩ hneeded
  obtain ⟨kind, hkind, hmem⟩ := isNeeded_iff.mp hneeded
  exact isNeeded_iff.mpr ⟨kind, h hkind, hmem⟩

theorem render_congr (h : graph'.kinds = graph.kinds) :
    render graph'.nodes = render graph.nodes := by
  have hneeded : isNeeded graph'.nodes = isNeeded graph.nodes := by
    funext kinds
    rw [Bool.eq_iff_iff, isNeeded_iff, isNeeded_iff, h]
  unfold render lines
  rw [hneeded]

theorem lines_sublist_all (nodes : List Node) :
    (lines nodes).Sublist (base ++ conditional.map (·.2)) := by
  apply List.Sublist.append_left
  apply List.Sublist.map
  exact List.filter_sublist

theorem nodup_all : (base ++ conditional.map (·.2)).Nodup := by
  decide

theorem nodup_lines (nodes : List Node) : (lines nodes).Nodup :=
  nodup_all.sublist (lines_sublist_all nodes)

theorem imported_base :
    base.filterMap importedName? = ["torch", "nn", "optim", "transforms", "DataLoader"] := by
  decide +kernel

theorem mem_imported_of_mem_base {name : String} (nodes : List Node)
    (h : name ∈ ["torch", "nn", "optim", "transforms", "DataLoader"]) :
    name ∈ (lines nodes).filterMap importedName? := by
  rw [← imported_base] at h
  rw [lines, List.filterMap_append]
  exact List.mem_append_left _ h

theorem datasets_mem_imported {nodes : List Node} (h : (Training.ofNodes nodes).hasImages) :
    "datasets" ∈ (lines nodes).filterMap importedName? := by
  have hneeded : isNeeded nodes ["dataLoader", "imageInput"] := by
    obtain ⟨node, hnode, hkind⟩ := List.any_eq_true.mp h
    rw [isNeeded, List.any_eq_true]
    exact ⟨node, hnode, by simp_all⟩
  apply List.mem_filterMap.mpr
  refine ⟨"import torchvision.datasets as datasets", ?_, by decide +kernel⟩
  apply List.mem_append_right
  apply List.mem_map.mpr
  exact ⟨_, List.mem_filter.mpr ⟨List.mem_cons_self, hneeded⟩, rfl⟩

end Preamble

namespace Training

theorem qualifiers_fixedLines :
    (imageLines.all fun line => (qualifiers line).all ["transforms", "datasets"].contains) ∧
    (customLines.all fun line => (qualifiers line).isEmpty) ∧
    loopLines.all fun line =>
      (qualifiers line).all
        ["torch", "model", "optimizer", "loss", "output", "target"].contains := by
  simp only [imageLines, customLines, loopLines, List.all_cons, List.all_nil, qualifiers,
    String.toList_append, Nat.toString_eq_repr, Nat.toList_repr, Bool.and_true, Bool.and_eq_true]
  and_intros
  all_goals
    -- A literal is the list of its characters, which is faster to read than its bytes.
    repeat rw [String.toList_ofList]
    decide +kernel

theorem finds_adamCode (rate : Binary64) : Finds (adamCode rate) ["optim", "model"] := by
  have hrate : Finds ("optim.Adam(model.parameters(), lr=" ++ Code.number rate)
      (["optim", "model"] ++ []) := .after (by decide) (finds_number rate)
  exact hrate.close (by decide)

theorem finds_sgdCode (rate momentum : Binary64) :
    Finds (sgdCode rate momentum) ["optim", "model"] := by
  have hrate : Finds ("optim.SGD(model.parameters(), lr=" ++ Code.number rate)
      (["optim", "model"] ++ []) := .after (by decide) (finds_number rate)
  exact (hrate.join (by decide) (finds_number momentum)).close (by decide)

theorem qualifiers_optimizer (nodes : List Node) :
    qualifiers ("optimizer = " ++ (ofNodes nodes).optimizer) = ["optim", "model"] := by
  have hfront {code : String} (h : Finds code ["optim", "model"]) :
      Finds ("optimizer = " ++ code) ([] ++ ["optim", "model"]) := .after (by decide) h
  dsimp only [ofNodes, optimizerCode]
  split
  · exact (hfront (finds_adamCode _)).qualifiers_eq
  · split
    · exact (hfront (finds_adamCode _)).qualifiers_eq
    · split
      · exact (hfront (finds_sgdCode _ _)).qualifiers_eq
      · have hcode := hfront (finds_adamCode adamRate)
        rw [← String.append_assoc, qualifiers, hcode.feed_append (by decide)]
        decide

theorem qualifiers_criterion (nodes : List Node) :
    qualifiers ("criterion = " ++ (ofNodes nodes).criterion) = ["nn"] := by
  dsimp only [ofNodes, criterionCode]
  split
  · decide
  · split
    · decide
    · split <;> decide

theorem qualifiers_choices (nodes : List Node) :
    [ "", "# Initialize the model", "model = " ++ ModelClass.name ++ "()", "",
      "# Define loss function", "criterion = " ++ (ofNodes nodes).criterion, "",
      "# Define optimizer", "optimizer = " ++ (ofNodes nodes).optimizer, "",
      "# Training loop" ].flatMap qualifiers = ["nn", "optim", "model"] := by
  simp only [List.flatMap_cons, qualifiers_criterion, qualifiers_optimizer]
  decide

theorem qualifiers_lines (nodes : List Node) :
    (ofNodes nodes).lines.flatMap qualifiers =
      (if (ofNodes nodes).hasImages then imageLines else customLines).flatMap qualifiers ++
        ["nn", "optim", "model"] ++ loopLines.flatMap qualifiers := by
  have hfirst : ["# Setup data loaders", ""].flatMap qualifiers = [] := by decide
  have hlast : ["", "# Run training", "train()"].flatMap qualifiers = [] := by decide
  unfold lines
  simp only [List.flatMap_append, hfirst, hlast, qualifiers_choices, List.nil_append,
    List.append_nil]

theorem mem_of_mem_qualifiers {nodes : List Node} {name : String}
    (h : name ∈ (ofNodes nodes).lines.flatMap qualifiers) :
    name ∈ ["torch", "nn", "optim", "transforms"] ∨
    (name = "datasets" ∧ (ofNodes nodes).hasImages) ∨
    name ∈ ["model", "optimizer", "loss", "output", "target"] := by
  obtain ⟨himages, hcustom, hloop⟩ := qualifiers_fixedLines
  simp only [List.all_eq_true, List.contains_iff_mem, List.isEmpty_iff] at himages hcustom hloop
  rw [qualifiers_lines, List.mem_append, List.mem_append] at h
  rcases h with (h | h) | h
  · split at h
    · next hhas =>
      obtain ⟨line, hline, hname⟩ := List.mem_flatMap.mp h
      have hmem := himages line hline name hname
      simp only [List.mem_cons, List.not_mem_nil, or_false] at hmem ⊢
      rcases hmem with rfl | rfl
      · simp
      · simp [hhas]
    · rw [List.flatMap_eq_nil_iff.mpr hcustom] at h
      exact absurd h List.not_mem_nil
  · revert name
    simp
  · obtain ⟨line, hline, hname⟩ := List.mem_flatMap.mp h
    have hmem := hloop line hline name hname
    simp only [List.mem_cons, List.not_mem_nil, or_false] at hmem
    rcases hmem with rfl | rfl | rfl | rfl | rfl | rfl <;> simp

end Training

namespace ModelClass

theorem mem_of_mem_qualifiers {net : Network} {qualifier : String}
    (h : qualifier ∈ (ofNetwork net).lines.flatMap qualifiers) : qualifier ∈ ["nn", "self"] := by
  have hindent {code : String} {names : List String} (h : Finds code names) :
      qualifiers (Text.indent 8 code) = names := by
    have hspaces : IsSeparator (String.ofList (List.replicate 8 ' ')) := by decide
    exact (h.behind hspaces).qualifiers_eq
  have hreturn (ref : Ref) : Finds ("return " ++ ref.code) ([] ++ []) :=
    .after (by decide) ref.finds_code
  have hinit : [ "class " ++ name ++ "(nn.Module):", "    def __init__(self):",
      "        super(" ++ name ++ ", self).__init__()" ].flatMap qualifiers = ["nn"] := by decide
  have hforward : ["", "    def forward(self, x):"].flatMap qualifiers = [] := by decide
  unfold lines at h
  simp only [List.flatMap_append, List.flatMap_map, List.flatMap_singleton, hinit, hforward,
    hindent (hreturn _), List.append_nil, List.mem_append, List.mem_flatMap] at h
  rcases h with (h | ⟨field, hfield, hqualifier⟩) | ⟨s, _, hqualifier⟩
  · rw [List.mem_singleton.mp h]
    exact List.mem_cons_self
  · rw [fields_ofNetwork] at hfield
    obtain ⟨entry, _, hentry⟩ := List.mem_filterMap.mp hfield
    obtain ⟨layer, _, rfl⟩ := Option.map_eq_some_iff.mp hentry
    rw [hindent (Field.finds_code _ _)] at hqualifier
    exact List.mem_reverse.mp hqualifier
  · rw [hindent s.finds_code] at hqualifier
    exact List.mem_cons_of_mem _ hqualifier

end ModelClass

namespace Script

theorem lines_model (graph : Graph) :
    Text.lines (ofGraph graph).model = (ModelClass.ofGraph graph).lines :=
  Text.lines_unlines fun _ => ModelClass.isPlainText_of_mem_lines

theorem lines_training (graph : Graph) :
    Text.lines (ofGraph graph).training = (Training.ofNodes graph.nodes).lines :=
  Text.lines_unlines fun _ => Training.isPlainText_of_mem_lines_ofNodes

/--
The imports are determined by the kinds of the nodes, and there are more of them if there are more
kinds. Of what the other parts refer to, only variables of these parts are not imported.
-/
theorem imports_determined_and_bind_qualifiers (graph : Graph) :
    let script := ofGraph graph
    let imports := Text.lines script.imports
    let imported := imports.filterMap importedName?
    let base :=
      [ "import torch",
        "import torch.nn as nn",
        "import torch.optim as optim",
        "import torchvision.transforms as transforms",
        "from torch.utils.data import DataLoader" ]
    (∀ graph', graph'.kinds = graph.kinds → (ofGraph graph').imports = script.imports) ∧
    imports.Nodup ∧
    base <+: imports ∧
    imports.Sublist (base ++
      ["import torchvision.datasets as datasets", "import matplotlib.pyplot as plt"]) ∧
    (∀ graph', graph.kinds ⊆ graph'.kinds →
      imports.Sublist (Text.lines (ofGraph graph').imports)) ∧
    (∀ name ∈ (Text.lines script.training).flatMap qualifiers,
      name ∈ imported ∨ name ∈ ["model", "optimizer", "loss", "output", "target"]) ∧
    (∀ name ∈ (Text.lines script.model).flatMap qualifiers, name ∈ imported ∨ name = "self") ∧
    "DataLoader" ∈ imported ∧
    "nn" ∈ imported := by
  intro script imports imported base
  have hlines (graph : Graph) : Text.lines (ofGraph graph).imports = Preamble.lines graph.nodes :=
    Preamble.lines_render graph.nodes
  have himports : imports = Preamble.lines graph.nodes := hlines graph
  have himported : imported = (Preamble.lines graph.nodes).filterMap importedName? := by
    rw [← himports]
  have hbase : ∀ name ∈ ["torch", "nn", "optim", "transforms", "DataLoader"],
      name ∈ (Preamble.lines graph.nodes).filterMap importedName? :=
    fun _ => Preamble.mem_imported_of_mem_base graph.nodes
  rw [lines_training, lines_model, himports, himported]
  refine ⟨fun graph' => Preamble.render_congr, Preamble.nodup_lines _, List.prefix_append _ _,
    Preamble.lines_sublist_all _, ?_, ?_, ?_, hbase _ (by simp), hbase _ (by simp)⟩
  · intro graph' hkinds
    rw [hlines]
    exact Preamble.lines_sublist hkinds
  · intro name hname
    rcases Training.mem_of_mem_qualifiers hname with h | ⟨rfl, h⟩ | h
    · have hsubset : ["torch", "nn", "optim", "transforms"] ⊆
          ["torch", "nn", "optim", "transforms", "DataLoader"] := by decide
      exact .inl (hbase name (hsubset h))
    · exact .inl (Preamble.datasets_mem_imported h)
    · exact .inr h
  · intro name hname
    rcases List.mem_cons.mp (ModelClass.mem_of_mem_qualifiers hname) with rfl | h
    · exact .inl (hbase _ (by simp))
    · exact .inr (List.mem_singleton.mp h)

/--
An image input that is said to be a loss, with its kind as the only thing that counts.
-/
theorem imports_determined_and_bind_qualifiers_of_recategorized :
    let view : Node := .ofKind "v" "visualize"
    let images : Node := .ofKind "i" "imageInput"
    let graph : Graph := ⟨[view, images], []⟩
    let graph' : Graph := ⟨[{ images with category := some .loss }, view, view], []⟩
    let smaller : Graph := ⟨[view], []⟩
    let imported := (Text.lines (ofGraph graph).imports).filterMap importedName?
    graph'.kinds = graph.kinds ∧ (ofGraph graph').imports = (ofGraph graph).imports ∧
      smaller.kinds ⊆ graph.kinds ∧
      (Text.lines (ofGraph smaller).imports).Sublist (Text.lines (ofGraph graph).imports) ∧
      "datasets" ∈ (Text.lines (ofGraph graph).training).flatMap qualifiers ∧
      "datasets" ∈ imported := by
  intro view images graph graph' smaller imported
  obtain ⟨hsame, -, -, -, -, hused, -⟩ := imports_determined_and_bind_qualifiers graph
  obtain ⟨-, -, -, -, hmore, -⟩ := imports_determined_and_bind_qualifiers smaller
  have hkinds : graph'.kinds = graph.kinds := by decide
  have hsubset : smaller.kinds ⊆ graph.kinds := by decide
  have hdatasets : "datasets" ∈ (Text.lines (ofGraph graph).training).flatMap qualifiers := by
    have himages : (Training.ofNodes graph.nodes).hasImages := by decide
    have hline : "datasets" ∈ qualifiers
        "test_dataset = datasets.MNIST('./data', train=False, transform=transform)" := by
      decide +kernel
    rw [lines_training, Training.qualifiers_lines, if_pos himages]
    apply List.mem_append_left
    apply List.mem_append_left
    exact List.mem_flatMap.mpr ⟨_, by simp [Training.imageLines], hline⟩
  exact ⟨hkinds, hsame graph' hkinds, hsubset, hmore graph hsubset, hdatasets,
    (hused _ hdatasets).resolve_right (by decide)⟩

end Script

end NetScript
