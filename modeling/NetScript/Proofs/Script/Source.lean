import NetScript.Proofs.Script.Plain

/-!
This module contains the source of a script. Its parts are blocks of lines, without two empty lines
in a row. The main statement is that the parts can be read off the source, by a split at every two
empty lines.
-/

namespace NetScript

open Code

namespace Text

theorem isChain_of_ne_empty {lines : List String} (h : ∀ line ∈ lines, line ≠ "") :
    lines.IsChain fun a b => a ≠ "" ∨ b ≠ "" := by
  induction lines with
  | nil => exact .nil
  | cons line lines ih =>
    rw [List.forall_mem_cons] at h
    rw [List.isChain_cons]
    exact ⟨fun _ _ => .inl h.1, ih h.2⟩

theorem isChain_append_empty {a b : List String} (ha : ∀ line ∈ a, line ≠ "")
    (hb : ∀ line ∈ b, line ≠ "") : (a ++ "" :: b).IsChain fun a b => a ≠ "" ∨ b ≠ "" := by
  rw [List.isChain_append, List.isChain_cons]
  refine ⟨isChain_of_ne_empty ha, ⟨?_, isChain_of_ne_empty hb⟩, ?_⟩
  · intro line hline
    exact .inr (hb line (List.mem_of_mem_head? hline))
  · intro line hline _ _
    exact .inl (ha line (List.mem_of_getLast? hline))

theorem visible_ofList (cs : List Char) :
    (isPlainText (String.ofList cs) && endsVisibly (String.ofList cs)) =
      (cs.all isPlain && cs.getLast?.any (!isBlank ·)) := by
  simp [isPlainText, endsVisibly]

end Text

namespace Preamble

theorem visible_lines : ∀ line ∈ base ++ conditional.map (·.2),
    (isPlainText line && Text.endsVisibly line) = true := by
  simp only [base, conditional, List.map_cons, List.map_nil, List.cons_append, List.nil_append,
    List.forall_mem_cons, List.not_mem_nil, false_implies, implies_true, and_true]
  and_intros <;> rw [Text.visible_ofList] <;> rfl

theorem visible_of_mem_lines {nodes : List Node} {line : String} (h : line ∈ lines nodes) :
    isPlainText line ∧ Text.endsVisibly line := by
  rw [← Bool.and_eq_true]
  apply visible_lines
  rcases List.mem_append.mp h with h | h
  · exact List.mem_append_left _ h
  · exact List.mem_append_right _ ((List.filter_sublist.map _).subset h)

theorem block_lines (nodes : List Node) : Text.Block (lines nodes) := by
  have hne : lines nodes ≠ [] := by simp [lines, base]
  constructor
  · intro line hline
    apply newline_not_mem
    exact (visible_of_mem_lines hline).1
  · apply Text.isChain_of_ne_empty
    intro line hline
    apply Text.ne_empty_of_endsVisibly
    exact (visible_of_mem_lines hline).2
  · rw [List.getLast?_eq_some_getLast hne]
    exact (visible_of_mem_lines (List.getLast_mem hne)).2

end Preamble

theorem Text.indent_ne_empty (line : String) : Text.indent 8 line ≠ "" := by
  simp [Text.indent]

theorem Text.not_isBlank_of_isDigit {c : Char} (h : c.isDigit) : ¬isBlank c := by
  simp only [Char.isDigit, Bool.and_eq_true, decide_eq_true_eq, UInt32.le_iff_toNat_le] at h
  change 48 ≤ c.toNat ∧ c.toNat ≤ 57 at h
  simp only [isBlank, Bool.or_eq_true, Bool.and_eq_true, decide_eq_true_eq]
  omega

theorem Text.endsVisibly_repr (n : Nat) : Text.endsVisibly n.repr := by
  have hne : Nat.toDigits 10 n ≠ [] := Nat.toDigits_ne_nil
  have hdigit : ((Nat.toDigits 10 n).getLast hne).isDigit :=
    Nat.isDigit_of_mem_toDigits (by decide) (by decide) (List.getLast_mem hne)
  rw [Text.endsVisibly, Nat.toList_repr, List.getLast?_eq_some_getLast hne]
  simpa using Text.not_isBlank_of_isDigit hdigit

theorem Ref.endsVisibly_code (ref : Ref) : Text.endsVisibly ref.code := by
  cases ref with
  | input => decide
  | output ordinal =>
    apply Text.endsVisibly_append
    apply Text.endsVisibly_repr

theorem ModelClass.block_lines (net : Network) : Text.Block (ofNetwork net).lines := by
  constructor
  · intro line hline
    apply newline_not_mem
    exact isPlainText_of_mem_lines hline
  · unfold lines
    rw [List.append_assoc, List.append_assoc]
    apply Text.isChain_append_empty (b := _ :: (List.map _ _ ++ [_]))
    · simp [Text.indent_ne_empty, name]
    · rw [List.forall_mem_cons, List.forall_mem_append, List.forall_mem_map,
        List.forall_mem_singleton]
      simp [Text.indent_ne_empty]
  · unfold lines
    rw [List.getLast?_concat]
    apply Text.endsVisibly_append
    apply Text.endsVisibly_append
    apply Ref.endsVisibly_code

theorem Training.block_lines (nodes : List Node) : Text.Block (ofNodes nodes).lines := by
  constructor
  · intro line hline
    apply newline_not_mem
    exact isPlainText_of_mem_lines_ofNodes hline
  · generalize ofNodes nodes = training
    unfold lines
    split
    · simp [imageLines, loopLines]
    · simp [customLines, loopLines]
  · unfold lines
    rw [List.getLast?_append_of_ne_nil _ (by simp)]
    decide

namespace Script

theorem model_ofGraph (graph : Graph) :
    (ofGraph graph).model = "\n".intercalate (ModelClass.ofGraph graph).lines ++ "\n" := by
  apply Text.unlines_eq_intercalate
  exact (ModelClass.block_lines _).ne_nil

theorem training_ofGraph (graph : Graph) :
    (ofGraph graph).training = "\n".intercalate (Training.ofNodes graph.nodes).lines ++ "\n" := by
  apply Text.unlines_eq_intercalate
  exact (Training.block_lines _).ne_nil

theorem source_ofGraph (graph : Graph) :
    (ofGraph graph).source.toList =
      (ofGraph graph).imports.toList ++ (Text.gap ++
        (("\n".intercalate (ModelClass.ofGraph graph).lines).toList ++ (Text.gap ++
          (ofGraph graph).training.toList))) := by
  have himports : Text.trimEnd (ofGraph graph).imports = (ofGraph graph).imports :=
    (Preamble.block_lines graph.nodes).trimEnd_intercalate
  have hmodel : Text.trimEnd (ofGraph graph).model =
      "\n".intercalate (ModelClass.ofGraph graph).lines :=
    (ModelClass.block_lines (Network.ofGraph graph)).trimEnd_unlines
  have htraining : Text.trimEnd (ofGraph graph).training =
      "\n".intercalate (Training.ofNodes graph.nodes).lines :=
    (Training.block_lines graph.nodes).trimEnd_unlines
  rw [source, himports, hmodel, htraining, training_ofGraph]
  simp

theorem splitOn_gap_source (graph : Graph) :
    Text.splitOn Text.gap (ofGraph graph).source.toList =
      [(ofGraph graph).imports.toList,
        ("\n".intercalate (ModelClass.ofGraph graph).lines).toList,
        (ofGraph graph).training.toList] := by
  have himports : ∀ rest, Text.splitOn Text.gap ((ofGraph graph).imports.toList ++
      (Text.gap ++ rest)) = (ofGraph graph).imports.toList :: Text.splitOn Text.gap rest :=
    (Preamble.block_lines graph.nodes).splitOn_gap_append
  have hmodel := (ModelClass.block_lines (Network.ofGraph graph)).splitOn_gap_append
  have htraining : Text.splitOn Text.gap (ofGraph graph).training.toList =
      [(ofGraph graph).training.toList] :=
    (Training.block_lines graph.nodes).splitOn_gap_unlines
  rw [source_ofGraph, himports, ModelClass.ofGraph, hmodel, htraining]

theorem splitOn_source {graph graph' : Graph} {script script' : Script}
    (h : compile (some graph) = .ok script) (h' : compile (some graph') = .ok script') :
    (∃ model training, script.model = model ++ "\n" ∧ script.training = training ++ "\n" ∧
      Text.splitOn "\n\n\n".toList script.source.toList =
        [script.imports.toList, model.toList, (training ++ "\n").toList]) ∧
    (script.source = script'.source ↔ script = script') := by
  cases h
  cases h'
  have hsplit := splitOn_gap_source graph
  refine ⟨⟨_, _, model_ofGraph graph, training_ofGraph graph, ?_⟩, ?_, congrArg source⟩
  · rw [← training_ofGraph]
    exact hsplit
  · intro hsource
    rw [hsource, splitOn_gap_source graph'] at hsplit
    simp only [List.cons.injEq, String.toList_inj, and_true] at hsplit
    obtain ⟨himports, hmodel, htraining⟩ := hsplit
    -- The newline that is missing behind the model in the source is always the same.
    have hmodel : (ofGraph graph).model = (ofGraph graph').model := by
      rw [model_ofGraph, model_ofGraph, hmodel]
    rw [Script.mk.injEq]
    exact ⟨himports.symm, hmodel, htraining.symm⟩

/--
The text of a setting is no part of the source, only its literal is.
-/
theorem splitOn_source_of_gap_in_text :
    let graph (padding : String) : Graph :=
      ⟨[(Node.ofKind "c" "conv2d").set "padding" (.text padding)], []⟩
    let script := ofGraph (graph "\n\n\n")
    let script' := ofGraph (graph "same")
    (compile (some (graph "\n\n\n")) = .ok script ∧
      compile (some (graph "same")) = .ok script') ∧
    (∃ model training, script.model = model ++ "\n" ∧ script.training = training ++ "\n" ∧
      Text.splitOn "\n\n\n".toList script.source.toList =
        [script.imports.toList, model.toList, (training ++ "\n").toList]) ∧
    (script.source = script'.source ↔ script = script') := by
  intro graph script script'
  have h : compile (some (graph "\n\n\n")) = .ok script := rfl
  have h' : compile (some (graph "same")) = .ok script' := rfl
  exact ⟨⟨h, h'⟩, splitOn_source h h'⟩

end Script

end NetScript
