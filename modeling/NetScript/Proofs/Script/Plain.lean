import Mathlib.Data.List.FinRange
import NetScript.Proofs.Json.Numbers
import NetScript.Proofs.Text.Lines
import NetScript.Script.Basic

/-!
This module contains the characters and the lines of a script. Whatever stands in a graph, the code
for it is printable ASCII, so nothing in a graph can end a line. The main statement is that the
lines of the model and of the training are the ones that were meant.
-/

namespace NetScript

namespace Code

def isPlainText (s : String) : Bool :=
  s.toList.all isPlain

theorem isPlainText_iff {s : String} : isPlainText s ↔ ∀ c ∈ s.toList, isPlain c :=
  List.all_eq_true

theorem newline_not_mem {s : String} (h : isPlainText s) : '\n' ∉ s.toList := by
  intro hmem
  have hplain := isPlainText_iff.mp h _ hmem
  contradiction

@[simp]
theorem isPlainText_append (a b : String) :
    isPlainText (a ++ b) = (isPlainText a && isPlainText b) := by
  simp [isPlainText]

theorem isPlainText_ofList (cs : List Char) : isPlainText (String.ofList cs) = cs.all isPlain := by
  simp [isPlainText]

theorem isPlain_of_isNumeral {c : Char} (h : Json.Reader.isNumeral c) : isPlain c := by
  unfold Json.Reader.isNumeral at h
  rcases Bool.or_eq_true_iff.mp h with hdigit | hsign
  · simp only [Json.Reader.isDigit, Bool.and_eq_true, decide_eq_true_eq] at hdigit
    simp only [isPlain, Bool.and_eq_true, decide_eq_true_eq]
    exact ⟨Char.le_trans (by decide) hdigit.1, Char.le_trans hdigit.2 (by decide)⟩
  · simp only [List.contains_iff_mem, List.mem_cons, List.not_mem_nil, or_false] at hsign
    rcases hsign with rfl | rfl | rfl | rfl <;> decide

@[simp]
theorem isPlainText_repr (n : Nat) : isPlainText n.repr := by
  rw [isPlainText_iff, Nat.toList_repr]
  intro c hc
  apply isPlain_of_isNumeral
  simp [Json.Reader.isNumeral, Json.Reader.isDigit_of_mem_toDigits hc]

theorem isPlain_of_mem_finite {d : Decimal} {c : Char} (h : c ∈ numberFormat.finite d) :
    isPlain c := by
  rw [numberFormat_finite] at h
  exact isPlain_of_isNumeral (Json.Reader.isNumeral_of_mem_positional h)

@[simp]
theorem isPlainText_number (x : Binary64) : isPlainText (number x) := by
  have hfinite : ∀ d, (numberFormat.finite d).all isPlain := fun d =>
    List.all_eq_true.mpr fun c => isPlain_of_mem_finite
  rw [isPlainText, number, String.toList_ofList, NumberFormat.render]
  split
  · decide
  split
  · split <;> decide
  · dsimp only
    split
    · rw [List.all_cons, hfinite]
      decide
    · apply hfinite

@[simp]
theorem isPlainText_quoted (s : String) : isPlainText (quoted s) := by
  have hescape : ∀ c ∈ s.toList.flatMap escape, isPlain c := by
    intro d hd
    obtain ⟨c, _, hd⟩ := List.mem_flatMap.mp hd
    exact isPlain_of_mem_escape hd
  rw [isPlainText_iff, quoted, String.toList_ofList, List.forall_mem_cons, List.forall_mem_append,
    List.forall_mem_singleton]
  exact ⟨by decide, hescape, by decide⟩

theorem isPlainText_intercalate {separator : String} {texts : List String}
    (hseparator : isPlainText separator) (h : ∀ text ∈ texts, isPlainText text) :
    isPlainText (separator.intercalate texts) := by
  induction texts with
  | nil => simp [isPlainText]
  | cons text texts ih =>
    rw [List.forall_mem_cons] at h
    cases texts with
    | nil => simpa using h.1
    | cons next texts => simp [hseparator, h.1, ih h.2]

end Code

open Code

@[simp]
theorem Atom.isPlainText_code (atom : Atom) : isPlainText atom.code := by
  cases atom <;> simp [Atom.code]

theorem Setting.isPlainText_tuple {items : List String} (h : ∀ item ∈ items, isPlainText item) :
    isPlainText (Setting.tuple items) := by
  unfold Setting.tuple
  split
  · next item =>
    have hitem := h item (by simp)
    simp +decide [hitem]
  · have hitems : isPlainText (", ".intercalate items) := isPlainText_intercalate (by decide) h
    simp +decide [hitems]

@[simp]
theorem Setting.isPlainText_code (setting : Setting) : isPlainText setting.code := by
  unfold Setting.code
  split
  · decide
  · decide
  · simp
  · simp
  · apply Setting.isPlainText_tuple
    simp
  · decide

theorem Call.isPlainText_code {call : Call} (hcallee : isPlainText call.callee)
    (hkeywords : ∀ keyword ∈ call.keywords, isPlainText keyword.1) : isPlainText call.code := by
  have harguments : isPlainText (", ".intercalate
      (call.positional.map Setting.code ++ call.keywords.map Call.keywordCode)) := by
    apply isPlainText_intercalate (by decide)
    rw [List.forall_mem_append]
    constructor
    · simp
    · rw [List.forall_mem_map]
      intro keyword hkeyword
      simp +decide [Call.keywordCode, hkeywords keyword hkeyword]
  simp +decide [Call.code, hcallee, harguments]

namespace Layer

@[simp]
theorem isPlainText_fieldName (layer : Layer) (ordinal : Nat) :
    isPlainText (layer.fieldName ordinal) := by
  cases layer <;> simp +decide [fieldName]

theorem fst_eq_of_mem_keyword? {node : Node} {key : String} {default : Binary64}
    {allowsText : Bool} {keyword : String × Setting}
    (h : keyword ∈ (keyword? node key default allowsText).toList) : keyword.1 = key := by
  unfold keyword? at h
  grind

theorem fst_mem_of_mem_keywords {layer : Layer} {node : Node} {keyword : String × Setting}
    (h : keyword ∈ (layer.call node).keywords) :
    keyword.1 ∈ ["bias", "stride", "padding", "batch_first"] := by
  cases layer with
  | linear =>
    simp only [call] at h
    split at h
    · contradiction
    · rw [List.mem_singleton.mp h]
      decide
  | conv2d =>
    rcases List.mem_append.mp h with h | h
    · rw [fst_eq_of_mem_keyword? h]
      decide
    · rw [fst_eq_of_mem_keyword? h]
      decide
  | lstm =>
    rw [List.mem_singleton.mp h]
    decide
  | relu => contradiction
  | sigmoid => contradiction
  | tanh => contradiction

@[simp]
theorem isPlainText_call (layer : Layer) (node : Node) : isPlainText (layer.call node).code := by
  have hnames : ∀ name ∈ ["bias", "stride", "padding", "batch_first"], isPlainText name := by decide
  apply Call.isPlainText_code
  · cases layer <;> dsimp only [call] <;> decide
  · exact fun keyword hkeyword => hnames _ (fst_mem_of_mem_keywords hkeyword)

end Layer

@[simp]
theorem Ref.isPlainText_code (ref : Ref) : isPlainText ref.code := by
  cases ref <;> simp +decide [Ref.code]

@[simp]
theorem Statement.isPlainText_code (s : Statement) : isPlainText s.code := by
  unfold Statement.code Statement.callee
  split <;> simp +decide

namespace ModelClass

theorem fields_ofNetwork (net : Network) :
    (ofNetwork net).fields = (net.nodes.zipIdx 1).filterMap fun (node, ordinal) =>
      node.layer?.map fun layer => ⟨layer, ordinal, layer.call node⟩ := by
  have hnodes : (List.finRange net.size).map (fun i => (net.nodes.get i, i.val + 1)) =
      net.nodes.zipIdx 1 := by
    apply List.ext_getElem
    · simp
    · intro i hi hi'
      simp [Nat.add_comm]
  rw [← hnodes, List.filterMap_map]
  rfl

theorem isPlainText_of_mem_fields {net : Network} {field : Field}
    (h : field ∈ (ofNetwork net).fields) : isPlainText field.code := by
  rw [fields_ofNetwork] at h
  obtain ⟨entry, _, hentry⟩ := List.mem_filterMap.mp h
  obtain ⟨layer, _, rfl⟩ := Option.map_eq_some_iff.mp hentry
  simp +decide [Field.code, Field.name]

theorem isPlainText_of_mem_lines {net : Network} {line : String}
    (h : line ∈ (ofNetwork net).lines) : isPlainText line := by
  simp only [lines, Text.indent, List.mem_append, List.mem_map] at h
  rcases h with (((h | ⟨field, hfield, rfl⟩) | h) | ⟨s, _, rfl⟩) | h
  · revert line
    decide
  · simp +decide [isPlainText_of_mem_fields hfield]
  · revert line
    decide
  · simp +decide
  · rw [List.mem_singleton.mp h]
    simp +decide

theorem lines_ofNetwork (net : Network) :
    (ofNetwork net).lines =
      [ "class FlowModel(nn.Module):",
        "    def __init__(self):",
        "        super(FlowModel, self).__init__()" ] ++
      (net.nodes.zipIdx 1).filterMap (fun (node, ordinal) => node.layer?.map fun layer =>
        "        " ++ layer.fieldName ordinal ++ " = " ++ (layer.call node).code) ++
      [ "",
        "    def forward(self, x):" ] ++
      net.forward.statements.map (fun s => "        " ++ s.code) ++
      ["        return " ++ net.forward.result.code] := by
  unfold lines
  rw [fields_ofNetwork, List.map_filterMap]
  simp [Text.indent, name, Field.code, Field.name, Function.comp_def, ofNetwork,
    ← String.append_assoc]

theorem length_fields (net : Network) :
    (ofNetwork net).fields.length = net.nodes.countP (·.layer?.isSome) := by
  rw [fields_ofNetwork, List.length_filterMap_eq_countP]
  conv_rhs => rw [← List.zipIdx_map_fst 1 net.nodes, List.countP_map]
  simp [Function.comp_def]

end ModelClass

namespace Training

theorem isPlainText_criterionCode (nodes : List Node) : isPlainText (criterionCode nodes) := by
  unfold criterionCode
  split
  · decide
  · split
    · decide
    · split <;> decide

theorem isPlainText_adamCode (rate : Binary64) : isPlainText (adamCode rate) := by
  unfold adamCode
  rw [isPlainText_append, isPlainText_append, isPlainText_number]
  decide

theorem isPlainText_sgdCode (rate momentum : Binary64) : isPlainText (sgdCode rate momentum) := by
  unfold sgdCode
  simp only [isPlainText_append, isPlainText_number]
  decide

theorem isPlainText_optimizerCode (nodes : List Node) : isPlainText (optimizerCode nodes) := by
  unfold optimizerCode
  split
  · apply isPlainText_adamCode
  · split
    · apply isPlainText_adamCode
    · split
      · apply isPlainText_sgdCode
      · rw [isPlainText_append, isPlainText_adamCode]
        decide

theorem isPlainText_fixedLines : (imageLines ++ customLines ++ loopLines).all isPlainText := by
  simp only [imageLines, customLines, loopLines, List.all_append, List.all_cons, List.all_nil,
    isPlainText_append, Nat.toString_eq_repr, isPlainText_repr, Bool.and_true, Bool.and_eq_true]
  -- A literal is the list of its characters, which is faster to check than its bytes.
  and_intros <;> rw [isPlainText_ofList] <;> rfl

theorem isPlainText_of_mem_lines {training : Training} (hcriterion : isPlainText training.criterion)
    (hoptimizer : isPlainText training.optimizer) {line : String} (h : line ∈ training.lines) :
    isPlainText line := by
  have hfixed := List.all_eq_true.mp isPlainText_fixedLines
  simp only [List.forall_mem_append] at hfixed
  obtain ⟨⟨himages, hcustom⟩, hloop⟩ := hfixed
  unfold lines at h
  simp only [List.mem_append] at h
  rcases h with (((h | h) | h) | h) | h
  · revert line
    decide
  · split at h
    · exact himages line h
    · exact hcustom line h
  · revert line
    simp +decide [hcriterion, hoptimizer]
  · exact hloop line h
  · revert line
    decide

theorem isPlainText_of_mem_lines_ofNodes {nodes : List Node} {line : String}
    (h : line ∈ (ofNodes nodes).lines) : isPlainText line := by
  refine isPlainText_of_mem_lines ?_ ?_ h
  · apply isPlainText_criterionCode
  · apply isPlainText_optimizerCode

theorem length_lines (training : Training) :
    training.lines.length = if training.hasImages then 55 else 48 := by
  unfold lines
  split <;> rfl

end Training

/--
The text consists of these lines, each of which is printable ASCII and ended by a newline.
-/
structure Text.HasLines (text : String) (lines : List String) : Prop where
  isPlain : ∀ c ∈ text.toList, c = '\n' ∨ Code.isPlain c
  split_eq : Text.split '\n' text.toList = lines.map String.toList ++ [[]]
  count_eq : text.toList.count '\n' = lines.length

theorem Text.hasLines_unlines {lines : List String} (h : ∀ line ∈ lines, isPlainText line) :
    Text.HasLines (Text.unlines lines) lines := by
  have hnewline : ∀ line ∈ lines, '\n' ∉ line.toList := fun line hline =>
    Code.newline_not_mem (h line hline)
  constructor
  · intro c hc
    rw [Text.toList_unlines] at hc
    obtain ⟨line, hline, hc⟩ := List.mem_flatMap.mp hc
    rcases List.mem_append.mp hc with hc | hc
    · exact .inr (isPlainText_iff.mp (h line hline) c hc)
    · exact .inl (List.mem_singleton.mp hc)
  · exact Text.split_unlines hnewline
  · exact Text.count_unlines hnewline

theorem Script.hasLines_ofGraph (graph : Graph) :
    let selected := graph.nodes.filter Node.isSelected
    let forward := (Network.ofGraph graph).forward
    let fieldLines := (selected.zipIdx 1).filterMap fun (node, ordinal) =>
      node.layer?.map fun layer =>
        "        " ++ layer.fieldName ordinal ++ " = " ++ (layer.call node).code
    Text.HasLines (Script.ofGraph graph).model
      ([ "class FlowModel(nn.Module):",
          "    def __init__(self):",
          "        super(FlowModel, self).__init__()" ] ++
        fieldLines ++
        [ "",
          "    def forward(self, x):" ] ++
        forward.statements.map (fun s => "        " ++ s.code) ++
        ["        return " ++ forward.result.code]) ∧
    (Script.ofGraph graph).model.toList.count '\n' =
      6 + selected.countP (·.layer?.isSome) + forward.statements.length ∧
    Text.HasLines (Script.ofGraph graph).training (Training.ofNodes graph.nodes).lines ∧
    (Script.ofGraph graph).training.toList.count '\n' =
      if graph.nodes.any (·.kind = "imageInput") then 55 else 48 := by
  intro selected forward fieldLines
  have hmodel : Text.HasLines (Script.ofGraph graph).model (ModelClass.ofGraph graph).lines :=
    Text.hasLines_unlines fun _ => ModelClass.isPlainText_of_mem_lines
  have htraining : Text.HasLines (Script.ofGraph graph).training
      (Training.ofNodes graph.nodes).lines :=
    Text.hasLines_unlines fun _ => Training.isPlainText_of_mem_lines_ofNodes
  refine ⟨?_, ?_, htraining, ?_⟩
  · rw [ModelClass.ofGraph, ModelClass.lines_ofNetwork] at hmodel
    exact hmodel
  · have hfields : (ModelClass.ofGraph graph).fields.length =
        selected.countP (·.layer?.isSome) := ModelClass.length_fields _
    have hforward : (ModelClass.ofGraph graph).forward = forward := rfl
    rw [hmodel.count_eq, ModelClass.lines, hforward]
    simp only [List.length_append, List.length_cons, List.length_nil, List.length_map, hfields]
    omega
  · rw [htraining.count_eq, Training.length_lines]
    rfl

end NetScript
