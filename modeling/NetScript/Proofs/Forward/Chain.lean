import NetScript.Proofs.Forward.Forest

/-!
This module contains chains, the networks with a link from each node to the next in some list. The
main statement is on all forests: the forward pass gives every node the composition of the layers on
the way to it, and results in the one at the end of the last path. The layers of a chain are applied
one after the other.
-/

namespace NetScript.Network

variable {net : Network} {V : Type}

/--
The nodes from `i` on, each the only child of the one before.
-/
inductive OnlyPath (net : Network) : Fin net.size → List (Fin net.size) → Prop where
  | leaf {i : Fin net.size} (h : net.children i = []) : OnlyPath net i [i]
  | pass {i j : Fin net.size} {path : List (Fin net.size)} (h : net.children i = [j])
      (hpath : OnlyPath net j path) : OnlyPath net i (i :: path)

theorem OnlyPath.lastPath {i : Fin net.size} {path : List (Fin net.size)}
    (h : net.OnlyPath i path) : net.LastPath i path := by
  induction h with
  | leaf h => exact .leaf h
  | pass h _ ih =>
    refine .pass ?_ ih
    rw [LastLinked, h, List.getLast?_singleton]

def layerOrdinals (net : Network) (path : List (Fin net.size)) : List Nat :=
  path.filterMap fun i => (net.layer? i).map fun _ => net.ordinal i

theorem ordinals_record (trace : Trace net) (i : Fin net.size) (argument : Ref) :
    (trace.record i argument).statements.toList.map (·.ordinal) =
      trace.statements.toList.map (·.ordinal) ++ net.layerOrdinals [i] := by
  rw [Trace.statements_record, List.map_append, layerOrdinals, statement?]
  cases hlayer : net.layer? i <;> simp [hlayer]

theorem layerOrdinals_cons (i : Fin net.size) (path : List (Fin net.size)) :
    net.layerOrdinals (i :: path) = net.layerOrdinals [i] ++ net.layerOrdinals path := by
  unfold layerOrdinals
  rw [← List.filterMap_append, List.singleton_append]

theorem outputOf_eq_getD (i : Fin net.size) (argument : Ref) :
    net.outputOf i argument =
      ((net.layerOrdinals [i]).getLast?.map Ref.output).getD argument := by
  unfold outputOf layerOrdinals
  cases hlayer : net.layer? i <;> simp [hlayer]

theorem OnlyPath.descend_eq {i : Fin net.size} {path : List (Fin net.size)}
    (h : net.OnlyPath i path) (hnodup : path.Nodup) (trace : Trace net) (argument : Ref)
    (hfresh : ∀ j ∈ path, trace.output? j = none) :
    (descend trace i argument).1.statements.toList.map (·.ordinal) =
        trace.statements.toList.map (·.ordinal) ++ net.layerOrdinals path ∧
      (descend trace i argument).2 =
        ((net.layerOrdinals path).getLast?.map Ref.output).getD argument := by
  -- Every step of the visit records a node, so the trace is general in the induction.
  induction h generalizing trace argument with
  | @leaf i hleaf =>
    rw [descend_of_unvisited (hfresh i List.mem_cons_self), hleaf, descendAll_nil]
    exact ⟨ordinals_record trace i argument, outputOf_eq_getD i argument⟩
  | @pass i j path hchildren _ ih =>
    rw [List.nodup_cons] at hnodup
    rw [descend_of_unvisited (hfresh i List.mem_cons_self), hchildren, descendAll_cons,
      descendAll_nil]
    have hrest : ∀ k ∈ path, (trace.record i argument).output? k = none := by
      intro k hk
      rw [Trace.output?_record_of_ne]
      · exact hfresh k (List.mem_cons_of_mem _ hk)
      · rintro rfl
        exact hnodup.1 hk
    obtain ⟨hordinals, hresult⟩ := ih hnodup.2 _ (net.outputOf i argument) hrest
    rw [hordinals, hresult, ordinals_record, List.append_assoc, ← layerOrdinals_cons]
    refine ⟨rfl, ?_⟩
    rw [layerOrdinals_cons, List.getLast?_append, outputOf_eq_getD]
    cases (net.layerOrdinals path).getLast? with
    | none => rfl
    | some ordinal => rfl

theorem mem_zip_tail_iff {α : Type} {before rest : List α} {a b : α}
    (h : (before ++ a :: rest).Nodup) :
    (a, b) ∈ (before ++ a :: rest).zip (before ++ a :: rest).tail ↔ rest.head? = some b := by
  induction before with
  | nil =>
    rw [List.nil_append, List.nodup_cons] at h
    cases rest with
    | nil => simp
    | cons c rest =>
      rw [List.nil_append, List.tail_cons, List.zip_cons_cons, List.mem_cons, List.head?_cons]
      constructor
      · rintro (heq | hmem)
        · rw [(Prod.mk.inj heq).2]
        · exact absurd (List.of_mem_zip hmem).1 h.1
      · intro heq
        rw [Option.some.inj heq]
        exact .inl rfl
  | cons c before ih =>
    rw [List.cons_append, List.nodup_cons] at h
    -- The list behind `c` is not empty, so the first pair can be split off.
    obtain ⟨d, list, hlist⟩ := List.exists_cons_of_ne_nil (l := before ++ a :: rest) (by simp)
    rw [← ih h.2, List.cons_append, List.tail_cons]
    rw [hlist] at h ⊢
    rw [List.zip_cons_cons, List.mem_cons, List.tail_cons]
    constructor
    · rintro (heq | hmem)
      · rw [← hlist, ← (Prod.mk.inj heq).1] at h
        exact absurd (List.mem_append_right _ List.mem_cons_self) h.1
      · exact hmem
    · exact .inr

/--
The list has all nodes, and there is one link from each of them to the next.
-/
structure IsChain (net : Network) (order : List (Fin net.size)) : Prop where
  nodes : order.Perm (List.finRange net.size)
  links : net.links.Perm (order.zip order.tail)

namespace IsChain

variable {order : List (Fin net.size)}

theorem nodup (h : net.IsChain order) : order.Nodup :=
  h.nodes.nodup_iff.mpr (List.nodup_finRange _)

theorem targets_perm (h : net.IsChain order) : (net.links.map (·.2)).Perm order.tail := by
  have hperm := h.links.map Prod.snd
  rw [List.map_snd_zip (by simp)] at hperm
  exact hperm

theorem isForest (h : net.IsChain order) : net.IsForest := by
  intro i
  have hnodup : (net.links.map (·.2)).Nodup := h.targets_perm.nodup_iff.mpr h.nodup.tail
  have hcount := List.nodup_iff_count_le_one.mp hnodup i
  rw [List.count_eq_countP, List.countP_map] at hcount
  exact hcount

theorem linked_iff {before rest : List (Fin net.size)} {i j : Fin net.size}
    (h : net.IsChain order) (horder : order = before ++ i :: rest) :
    net.Linked i j ↔ rest.head? = some j := by
  have hnodup := h.nodup
  rw [Linked, h.links.mem_iff]
  rw [horder] at hnodup ⊢
  exact mem_zip_tail_iff hnodup

theorem onlyPath (h : net.IsChain order) {before rest : List (Fin net.size)} {i : Fin net.size}
    (horder : order = before ++ i :: rest) : net.OnlyPath i (i :: rest) := by
  induction rest generalizing before i with
  | nil =>
    apply OnlyPath.leaf
    rw [List.eq_nil_iff_forall_not_mem]
    intro j hj
    have hhead := (h.linked_iff horder).mp (mem_children.mp hj)
    contradiction
  | cons j rest ih =>
    rw [← List.singleton_append, ← List.append_assoc] at horder
    -- Neither list has duplicates, so it is enough that they have the same members.
    refine .pass ?_ (ih horder)
    rw [← List.perm_singleton, List.perm_ext_iff_of_nodup (h.isForest.nodup_children i)
      (List.nodup_singleton j)]
    intro k
    rw [List.append_assoc] at horder
    rw [mem_children, List.mem_singleton, eq_comm, ← Option.some.injEq]
    exact h.linked_iff horder

theorem entries_eq {start : Fin net.size} {rest : List (Fin net.size)}
    (h : net.IsChain (start :: rest)) : net.entries = [start] := by
  rw [← List.perm_singleton, List.perm_ext_iff_of_nodup net.nodup_entries
    (List.nodup_singleton start)]
  intro i
  have hmem : i ∈ start :: rest := h.nodes.mem_iff.mpr (List.mem_finRange i)
  -- The nodes behind the first one are just those that have a link to them.
  have htarget : (∃ link ∈ net.links, link.2 = i) ↔ i ∈ rest := by
    rw [← List.mem_map]
    exact h.targets_perm.mem_iff
  have hstart := (List.nodup_cons.mp h.nodup).1
  rw [mem_entries, List.mem_singleton]
  constructor
  · intro hentry
    rcases List.mem_cons.mp hmem with heq | hrest
    · exact heq
    · obtain ⟨link, hlink, heq⟩ := htarget.mpr hrest
      exact absurd heq (hentry link hlink)
  · rintro rfl link hlink heq
    exact hstart (htarget.mp ⟨link, hlink, heq⟩)

theorem entries_eq_nil (h : net.IsChain []) : net.entries = [] := by
  rw [List.eq_nil_iff_forall_not_mem]
  intro i _
  exact absurd (h.nodes.mem_iff.mpr (List.mem_finRange i)) List.not_mem_nil

theorem forward_eq (h : net.IsChain order) :
    net.forward.statements.map (·.ordinal) = net.layerOrdinals order ∧
      net.forward.result = ((net.layerOrdinals order).getLast?.map Ref.output).getD .input := by
  rw [forward_eq_descendAll]
  cases order with
  | nil =>
    rw [h.entries_eq_nil, descendAll_nil]
    exact ⟨rfl, rfl⟩
  | cons start rest =>
    rw [h.entries_eq, descendAll_cons, descendAll_nil]
    have hpath : net.OnlyPath start (start :: rest) := h.onlyPath (List.nil_append _).symm
    exact hpath.descend_eq h.nodup .empty .input fun j _ => Trace.output?_empty j

theorem exec_forward (h : net.IsChain order) (layers : Nat → V → V) (input : V) :
    net.forward.exec layers input = some (net.along layers order input) := by
  cases order with
  | nil => exact exec_forward_of_no_entries layers input h.entries_eq_nil
  | cons start rest =>
    have hentry : net.entries.getLast? = some start := by
      rw [h.entries_eq]
      rfl
    have hpath : net.OnlyPath start (start :: rest) := h.onlyPath (List.nil_append _).symm
    obtain ⟨path, hlast, hexec⟩ := h.isForest.exists_exec_eq_along layers input hentry
    rw [hexec, hlast.eq hpath.lastPath]

end IsChain

theorem IsForest.exists_values (hforest : net.IsForest) (layers : Nat → V → V) (input : V) :
    ∃ env, net.forward.statements.foldlM (Statement.exec layers) (.initial input) = some env ∧
      ∀ i, net.Reachable i → ∃ path ref, net.PathTo path i ∧
        (∀ path', net.PathTo path' i → path' = path) ∧
        (visitAll net.entries).1.output? i = some ref ∧
        (∀ layer, net.layer? i = some layer → ref = .output (net.ordinal i)) ∧
        env ref = some (net.along layers path input) := by
  obtain ⟨env, hexec, henv⟩ := (scoped_visitAll net).single.exists_exec layers input
  refine ⟨env, hexec, ?_⟩
  intro i hreachable
  obtain ⟨path, hpath⟩ := hreachable.exists_pathTo
  obtain ⟨ref, href, hvalue⟩ := hforest.exists_value henv hpath
  refine ⟨path, ref, hpath, fun path' hpath' => hforest.path_eq hpath' hpath, href, ?_, hvalue⟩
  intro layer hlayer
  rw [output?_of_layer hlayer ⟨ref, href⟩, Option.some.injEq] at href
  exact href.symm

theorem exec_forward_of_isForest (graph : Graph) (layers : Nat → V → V) (input : V) :
    let net := ofGraph graph
    (net.IsForest →
      (net.entries = [] → net.forward.exec layers input = some input) ∧
      (∀ entry, net.entries.getLast? = some entry → ∃ path, net.LastPath entry path ∧
        net.forward.exec layers input = some (net.along layers path input)) ∧
      ∃ env, net.forward.statements.foldlM (Statement.exec layers) (.initial input) = some env ∧
        ∀ i, net.Reachable i → ∃ path ref, net.PathTo path i ∧
          (∀ path', net.PathTo path' i → path' = path) ∧
          (visitAll net.entries).1.output? i = some ref ∧
          (∀ layer, net.layer? i = some layer → ref = .output (net.ordinal i)) ∧
          env ref = some (net.along layers path input)) ∧
    ∀ order, net.IsChain order →
      net.forward.statements.map (·.ordinal) = net.layerOrdinals order ∧
      net.forward.result = ((net.layerOrdinals order).getLast?.map Ref.output).getD .input ∧
      net.forward.exec layers input = some (net.along layers order input) := by
  intro net
  refine ⟨?_, ?_⟩
  · intro hforest
    refine ⟨exec_forward_of_no_entries layers input, ?_, hforest.exists_values layers input⟩
    intro entry hentry
    exact hforest.exists_exec_eq_along layers input hentry
  · intro order hchain
    obtain ⟨hordinals, hresult⟩ := hchain.forward_eq
    exact ⟨hordinals, hresult, hchain.exec_forward layers input⟩

/--
The first graph has a cycle that no entry leads to, and a node without a layer. The nodes of the
second one stand in another order than they are linked.
-/
theorem exec_forward_of_cycle_aside :
    let net := ofGraph ⟨[.ofKind "b" "relu", .ofKind "a" "linear", .ofKind "p" "tanh",
      .ofKind "q" "tanh", ⟨"u", "unknown", some .layer, .empty⟩, .ofKind "c" "lstm"],
      [.between "a" "b", .between "q" "p", .between "u" "c", .between "p" "q", .between "a" "u"]⟩
    let chain := ofGraph ⟨[.ofKind "c" "linear", .ofKind "a" "linear", .ofKind "b" "relu"],
      [.between "b" "c", .between "a" "b"]⟩
    net.IsForest ∧
      (∃ path, net.LastPath ⟨1, by decide⟩ path ∧
        net.forward.exec List.cons [] = some (net.along List.cons path [])) ∧
      chain.IsChain [⟨1, by decide⟩, ⟨2, by decide⟩, ⟨0, by decide⟩] ∧
      chain.forward.exec List.cons [] = some [1, 3, 2] := by
  intro net chain
  have hforest : net.IsForest := by decide
  have hchain : chain.IsChain [⟨1, by decide⟩, ⟨2, by decide⟩, ⟨0, by decide⟩] :=
    ⟨by decide, by decide⟩
  have hentry : net.entries.getLast? = some ⟨1, by decide⟩ := by decide
  exact ⟨hforest, ((exec_forward_of_isForest _ List.cons []).1 hforest).2.1 _ hentry, hchain,
    ((exec_forward_of_isForest _ List.cons []).2 _ hchain).2.2⟩

end NetScript.Network
