import NetScript.Proofs.Code.Call

/-!
This module contains the calls that construct the layers, read back. Such a call binds exactly the
values that the settings of the node resolve to, and two nodes have the same call if and only if
those values are the same.
-/

namespace NetScript

open Code

/-! Different values have different literals. -/

theorem eq_of_map_eq {α β : Type} {f : α → β} {as bs : List α}
    (hinj : ∀ a ∈ as, ∀ b ∈ bs, f a = f b → a = b) (h : as.map f = bs.map f) : as = bs := by
  induction as generalizing bs with
  | nil => exact (List.map_eq_nil_iff.mp h.symm).symm
  | cons a as ih =>
    cases bs with
    | nil => cases h
    | cons b bs =>
      obtain ⟨hhead, htail⟩ := List.cons_eq_cons.mp h
      have hrest := ih (fun a ha b hb =>
        hinj a (List.mem_cons_of_mem _ ha) b (List.mem_cons_of_mem _ hb)) htail
      rw [hinj a List.mem_cons_self b List.mem_cons_self hhead, hrest]

theorem Atom.eq_of_literal_eq {a b : Atom} (ha : a.isFinite) (hb : b.isFinite)
    (h : a.literal = b.literal) : a = b := by
  cases a with
  | number x =>
    cases b with
    | number y => rw [eq_of_number_eq ha hb (Literal.number.inj h)]
    | text t => cases h
  | text s =>
    cases b with
    | number y => cases h
    | text t => rw [Literal.text.inj h]

/--
Documents of other shapes share their literal.
-/
theorem Setting.eq_of_literal_eq {a b : Setting} (ha : a.isFinite) (hb : b.isFinite)
    (hne : a.literal ≠ .none) (h : a.literal = b.literal) : a = b := by
  cases a <;> cases b <;> simp only [literal, Literal.bool.injEq, Literal.number.injEq,
    Literal.text.injEq, Literal.tuple.injEq, reduceCtorEq, ne_eq, not_true_eq_false] at h hne
  · rw [h]
  · rw [eq_of_number_eq ha hb h]
  · rw [h]
  · rw [eq_of_map_eq (fun a hmem b hmem' => Atom.eq_of_literal_eq (List.all_eq_true.mp ha a hmem)
      (List.all_eq_true.mp hb b hmem')) h]

namespace Node

theorem isFinite_of_setting? {node : Node} (h : node.isFinite) {key : String} {setting : Setting}
    (hsetting : node.setting? key = some setting) : setting.isFinite := by
  have hfind {key : String} (hfind : node.settings.find? key = some setting) :
      setting.isFinite := by
    obtain ⟨front, behind, heq, _⟩ := List.lookup_eq_some_iff.mp hfind
    exact List.all_eq_true.mp h (key, setting) (by simp [heq])
  cases hkey : node.settings.find? key with
  | some found =>
    rw [setting?, hkey] at hsetting
    cases hsetting
    exact hfind hkey
  | none =>
    rw [setting?, hkey] at hsetting
    exact hfind hsetting

theorem isFinite_numberD {node : Node} (h : node.isFinite) (key : String) (default : Binary64)
    (hdefault : default.isFinite) : (node.numberD key default).isFinite := by
  unfold numberD
  cases hsetting : node.setting? key with
  | none => exact hdefault
  | some setting =>
    have hfinite := isFinite_of_setting? h hsetting
    cases setting <;> first | exact hdefault | exact hfinite

theorem isFinite_resolve {node : Node} (h : node.isFinite) (key : String) (default : Binary64)
    (hdefault : default.isFinite) (takes : Setting → Bool) :
    (node.resolve key default takes).isFinite := by
  unfold resolve
  split
  · next hsetting =>
    split
    · exact isFinite_of_setting? h hsetting
    · exact hdefault
  · exact hdefault

theorem literal_resolve_ne_none (node : Node) (key : String) (default : Binary64)
    {takes : Setting → Bool} (htakes : ∀ document, takes (.other document) = false) :
    (node.resolve key default takes).literal ≠ .none := by
  unfold resolve
  split
  · next setting _ =>
    split
    · next htaken =>
      cases setting with
      | other document => simp [htakes] at htaken
      | _ => exact nofun
    · exact nofun
  · exact nofun

end Node

namespace Layer

theorem size_eq_resolve (node : Node) (key : String) (default : Binary64)
    (hdefault : default.isZero = false) :
    size node key default = node.resolve key default Setting.isSize := by
  unfold size Node.resolve
  cases node.setting? key with
  | none => rfl
  | some setting =>
    cases setting with
    | number x =>
      -- The default is not zero, so a number that is equal to it has the same pattern.
      by_cases heq : x.equal default
      · have hx : x = default := by
          simp only [Binary64.equal, hdefault, Bool.and_false, Bool.or_false, Bool.and_eq_true,
            decide_eq_true_eq] at heq
          exact heq.2
        simp [hx]
      · simp [Setting.isSize, Setting.equal, heq]
    | list items => rfl
    | bool b => rfl
    | text s => rfl
    | other document => rfl

theorem keyword?_cases (node : Node) (key : String) (default : Binary64)
    (hdefault : default.equal default) (allowsText : Bool) {takes : Setting → Bool}
    (htakes : ∀ setting, takes setting = (setting.isSize || allowsText && setting.isText)) :
    (keyword? node key default allowsText = none ∧
      node.resolve key default takes = .number default) ∨
    (keyword? node key default allowsText = some (key, node.resolve key default takes) ∧
      node.resolve key default takes ≠ .number default) := by
  unfold keyword? Node.resolve
  cases node.setting? key with
  | none => exact .inl ⟨rfl, rfl⟩
  | some setting =>
    dsimp only
    rw [htakes]
    cases setting with
    | number x =>
      by_cases heq : x.equal default
      · exact .inl (by simp [Setting.equal, heq])
      · refine .inr ⟨by simp [Setting.isSize, Setting.equal, heq], ?_⟩
        rw [if_pos (by simp [Setting.isSize, Setting.equal, heq])]
        intro hx
        cases hx
        contradiction
    | list items => exact .inr (by simp [Setting.isSize, Setting.equal])
    | text s =>
      cases allowsText with
      | true => exact .inr (by simp [Setting.isText, Setting.equal])
      | false => exact .inl (by simp [Setting.isSize])
    | bool b => exact .inl (by simp [Setting.isSize, Setting.isText])
    | other document => exact .inl (by simp [Setting.isSize, Setting.isText])

theorem eq_of_keyword_cases {α : Type} {key : String} {default value value' : α}
    {keyword keyword' : Option (String × α)}
    (h : (keyword = none ∧ value = default) ∨ (keyword = some (key, value) ∧ value ≠ default))
    (h' : (keyword' = none ∧ value' = default) ∨ (keyword' = some (key, value') ∧ value' ≠ default))
    (heq : value = value') : keyword = keyword' := by
  subst heq
  rcases h with ⟨h, hvalue⟩ | ⟨h, hvalue⟩
  · rcases h' with ⟨h', _⟩ | ⟨_, hvalue'⟩
    · rw [h, h']
    · contradiction
  · rcases h' with ⟨_, hvalue'⟩ | ⟨h', _⟩
    · contradiction
    · rw [h, h']

theorem stride_cases (node : Node) :
    (keyword? node "stride" 1 false = none ∧
      node.resolve "stride" 1 Setting.isSize = .number 1) ∨
    (keyword? node "stride" 1 false = some ("stride", node.resolve "stride" 1 Setting.isSize) ∧
      node.resolve "stride" 1 Setting.isSize ≠ .number 1) :=
  keyword?_cases node "stride" 1 (by decide) false (by simp)

theorem padding_cases (node : Node) :
    (keyword? node "padding" 0 true = none ∧
      node.resolve "padding" 0 Setting.isPadding = .number 0) ∨
    (keyword? node "padding" 0 true = some ("padding", node.resolve "padding" 0 Setting.isPadding) ∧
      node.resolve "padding" 0 Setting.isPadding ≠ .number 0) :=
  keyword?_cases node "padding" 0 (by decide) true (by simp [Setting.isPadding])

theorem callee_call (layer : Layer) (node : Node) :
    (layer.call node).callee = ".".intercalate layer.signature.callee := by
  cases layer <;> rfl

theorem bind?_call (layer : Layer) (node : Node) :
    layer.signature.bind? ⟨layer.signature.callee, (layer.call node).positional.map Setting.literal,
      (layer.call node).keywords.map fun keyword => (keyword.1, keyword.2.literal)⟩ =
        some ((layer.arguments node).map fun argument => (argument.1, argument.2.literal)) := by
  cases layer with
  | linear =>
    cases hbias : node.boolD "bias" true <;>
      simp [signature, call, arguments, Signature.bind?, List.lookup_cons, hbias, Setting.literal]
  | conv2d =>
    have hone : number 1 = "1" := by decide +kernel
    have hzero : number 0 = "0" := by decide +kernel
    have hsize := size_eq_resolve node "kernel_size" 3 rfl
    -- A keyword that is left out is bound to its default, which is what it stands for.
    rcases stride_cases node with ⟨hstride, hstride'⟩ | ⟨hstride, _⟩ <;>
      rcases padding_cases node with ⟨hpadding, hpadding'⟩ | ⟨hpadding, _⟩ <;>
      simp [signature, call, arguments, Signature.bind?, List.lookup_cons, Setting.literal, *]
  | lstm => simp [signature, call, arguments, Signature.bind?, List.lookup_cons, Setting.literal]
  | relu => rfl
  | sigmoid => rfl
  | tanh => rfl

theorem isFinite_positional (layer : Layer) {node : Node} (h : node.isFinite) :
    ∀ setting ∈ (layer.call node).positional, setting.isFinite := by
  have hnumber (key : String) (default : Binary64) (hdefault : default.isFinite) :
      (Setting.number (node.numberD key default)).isFinite :=
    Node.isFinite_numberD h key default hdefault
  cases layer with
  | linear => simp [call, hnumber "in_features" 784 rfl, hnumber "out_features" 128 rfl]
  | conv2d =>
    have hsize := Node.isFinite_resolve h "kernel_size" 3 rfl Setting.isSize
    simp [call, size_eq_resolve node "kernel_size" 3 rfl, hsize, hnumber "in_channels" 3 rfl,
      hnumber "out_channels" 16 rfl]
  | lstm => simp [call, hnumber "input_size" 28 rfl, hnumber "hidden_size" 64 rfl]
  | relu => simp [call]
  | sigmoid => simp [call]
  | tanh => simp [call]

theorem isFinite_keywords (layer : Layer) {node : Node} (h : node.isFinite) :
    ∀ keyword ∈ (layer.call node).keywords, Reader.isName keyword.1 ∧ keyword.2.isFinite := by
  have hbias : Reader.isName "bias" := by decide
  have hfirst : Reader.isName "batch_first" := by decide
  have hstride : Reader.isName "stride" := by decide
  have hpadding : Reader.isName "padding" := by decide
  cases layer with
  | linear =>
    cases hvalue : node.boolD "bias" true <;> simp [call, hvalue, hbias, Setting.isFinite]
  | conv2d =>
    have hstride' := Node.isFinite_resolve h "stride" 1 rfl Setting.isSize
    have hpadding' := Node.isFinite_resolve h "padding" 0 rfl Setting.isPadding
    rcases stride_cases node with ⟨heq, _⟩ | ⟨heq, _⟩ <;>
      rcases padding_cases node with ⟨heq', _⟩ | ⟨heq', _⟩ <;>
      simp [call, heq, heq', hstride, hpadding, hstride', hpadding']
  | lstm => simp [call, hfirst, Setting.isFinite]
  | relu => simp [call]
  | sigmoid => simp [call]
  | tanh => simp [call]

theorem read?_call (layer : Layer) {node : Node} (h : node.isFinite) (rest : List Char) :
    layer.signature.read? ((layer.call node).code.toList ++ rest) =
      some ((layer.arguments node).map fun argument => (argument.1, argument.2.literal), rest) := by
  obtain ⟨name, names, hcallee, hnames⟩ : ∃ name names,
      layer.signature.callee = name :: names ∧ ∀ part ∈ name :: names, Reader.isName part := by
    cases layer <;> exact ⟨_, _, rfl, by decide⟩
  have hcall := Reader.call?_code name names (by rw [callee_call, hcallee]) hnames
    (isFinite_positional layer h) (isFinite_keywords layer h) rest
  have hbind := bind?_call layer node
  rw [hcallee] at hbind
  simp [Signature.read?, hcall, hbind]

theorem isFinite_arguments (layer : Layer) {node : Node} (h : node.isFinite) :
    ∀ argument ∈ layer.arguments node, argument.2.isFinite ∧ argument.2.literal ≠ .none := by
  have hnumber (key : String) (default : Binary64) (hdefault : default.isFinite) :
      (Setting.number (node.numberD key default)).isFinite ∧
        (Setting.number (node.numberD key default)).literal ≠ .none :=
    ⟨Node.isFinite_numberD h key default hdefault, nofun⟩
  have hresolve (key : String) (default : Binary64) (hdefault : default.isFinite)
      {takes : Setting → Bool} (htakes : ∀ document, takes (.other document) = false) :
      (node.resolve key default takes).isFinite ∧
        (node.resolve key default takes).literal ≠ .none :=
    ⟨Node.isFinite_resolve h key default hdefault takes,
      node.literal_resolve_ne_none key default htakes⟩
  have hbool (b : Bool) : (Setting.bool b).isFinite ∧ (Setting.bool b).literal ≠ .none :=
    ⟨rfl, nofun⟩
  cases layer <;> simp only [arguments, List.forall_mem_cons, List.not_mem_nil, false_implies,
    implies_true, and_true]
  · exact ⟨hnumber _ _ rfl, hnumber _ _ rfl, hbool _⟩
  · exact ⟨hnumber _ _ rfl, hnumber _ _ rfl, hresolve _ _ rfl fun _ => rfl,
      hresolve _ _ rfl fun _ => rfl, hresolve _ _ rfl fun _ => rfl⟩
  · exact ⟨hnumber _ _ rfl, hnumber _ _ rfl, hbool _⟩

theorem arguments_eq_of_code_eq {layer : Layer} {node other : Node} (h : node.isFinite)
    (h' : other.isFinite) (hcode : (layer.call other).code = (layer.call node).code) :
    layer.arguments other = layer.arguments node := by
  have hread := read?_call layer h []
  rw [← hcode, read?_call layer h'] at hread
  have hliterals := (Prod.mk.inj (Option.some.inj hread)).1
  -- Other documents share a literal, but they are never among the arguments.
  refine eq_of_map_eq (fun a ha b hb hab => ?_) hliterals
  obtain ⟨hname, hliteral⟩ := Prod.mk.inj hab
  have hfinite := isFinite_arguments layer h' a ha
  exact Prod.ext hname (Setting.eq_of_literal_eq hfinite.1 (isFinite_arguments layer h b hb).1
    hfinite.2 hliteral)

theorem call_eq_of_arguments_eq {layer : Layer} {node other : Node}
    (h : layer.arguments other = layer.arguments node) : layer.call other = layer.call node := by
  cases layer with
  | linear =>
    simp only [arguments, List.cons.injEq, Prod.mk.injEq, Setting.number.injEq, Setting.bool.injEq,
      true_and, and_true] at h
    simp only [call, h]
  | conv2d =>
    simp only [arguments, List.cons.injEq, Prod.mk.injEq, Setting.number.injEq, true_and,
      and_true] at h
    obtain ⟨hin, hout, hsize, hstride, hpadding⟩ := h
    have hstride' := eq_of_keyword_cases (stride_cases other) (stride_cases node) hstride
    have hpadding' := eq_of_keyword_cases (padding_cases other) (padding_cases node) hpadding
    simp only [call, hin, hout, size_eq_resolve _ "kernel_size" 3 rfl, hsize, hstride', hpadding']
  | lstm =>
    simp only [arguments, List.cons.injEq, Prod.mk.injEq, Setting.number.injEq, true_and,
      and_true] at h
    simp only [call, h]
  | relu => rfl
  | sigmoid => rfl
  | tanh => rfl

theorem code_call_determined (layer : Layer) (node : Node) (h : node.isFinite) :
    (∀ rest : List Char, layer.signature.read? ((layer.call node).code.toList ++ rest) =
      some ((layer.arguments node).map fun argument => (argument.1, argument.2.literal), rest)) ∧
    ∀ other : Node, other.isFinite →
      ((layer.call other).code = (layer.call node).code ↔
        layer.arguments other = layer.arguments node) := by
  refine ⟨read?_call layer h, fun other h' => ⟨arguments_eq_of_code_eq h h', fun heq => ?_⟩⟩
  rw [call_eq_of_arguments_eq heq]

def nestedNode : Node :=
  (((Node.ofKind "a" "conv2d").set "kernel_size"
    (.list [.number 3, .text "5), padding=(\"", .text ""])).set "stride" (.list [.number 2])).set
      "padding" (.text ",)\\")

theorem code_call_nestedNode : nestedNode.isFinite ∧
    (call conv2d nestedNode).code = "nn.Conv2d(3, 16, (3, \"5), padding=(\\\"\", \"\"), " ++
      "stride=(2,), padding=\",)\\\\\")" ∧
    (∀ rest : List Char,
      (signature conv2d).read? ((call conv2d nestedNode).code.toList ++ rest) =
        some ((arguments conv2d nestedNode).map
          fun argument => (argument.1, argument.2.literal), rest)) ∧
    ∀ other : Node, other.isFinite →
      ((call conv2d other).code = (call conv2d nestedNode).code ↔
        arguments conv2d other = arguments conv2d nestedNode) := by
  have hfinite : nestedNode.isFinite := by decide +kernel
  exact ⟨hfinite, by decide +kernel, code_call_determined conv2d nestedNode hfinite⟩

end Layer

end NetScript
