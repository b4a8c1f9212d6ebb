import NetScript.Proofs.Forward.Loop
import NetScript.Proofs.Names

/-!
This module contains the scopes of the variables and attributes in the class of a model. The main
statement is that every variable is assigned at most once and before it is used, and that every
attribute is declared exactly once.
-/

namespace NetScript

def Assigned (statements : List Statement) (ref : Ref) : Prop :=
  ref = .input ∨ ∃ s ∈ statements, s.output = ref

theorem Assigned.append {statements : List Statement} {ref : Ref} (h : Assigned statements ref)
    (more : List Statement) : Assigned (statements ++ more) ref := by
  rcases h with h | ⟨s, hs, h⟩
  · exact .inl h
  · exact .inr ⟨s, List.mem_append_left _ hs, h⟩

theorem Assigned.code {statements : List Statement} {ref : Ref} (h : Assigned statements ref) :
    ref.code = "x" ∨ ∃ s ∈ statements, s.output.code = ref.code := by
  rcases h with rfl | ⟨s, hs, rfl⟩
  · exact .inl rfl
  · exact .inr ⟨s, hs, rfl⟩

/--
The statements that can be run one after the other without an assignment being overwritten.
-/
inductive SingleAssignment : List Statement → Prop where
  | nil : SingleAssignment []
  | concat {statements : List Statement} {s : Statement} (h : SingleAssignment statements)
      (hargument : Assigned statements s.argument) (hnew : s.ordinal ∉ statements.map (·.ordinal)) :
      SingleAssignment (statements ++ [s])

namespace SingleAssignment

theorem nodup {statements : List Statement} (h : SingleAssignment statements) :
    (statements.map (·.ordinal)).Nodup := by
  induction h with
  | nil => exact List.nodup_nil
  | concat h hargument hnew ih =>
    rw [List.map_append, List.map_singleton, ← List.concat_eq_append]
    exact ih.concat hnew

theorem argument_assigned {before after : List Statement} {s : Statement}
    (h : SingleAssignment (before ++ s :: after)) : Assigned before s.argument := by
  -- Nothing is known of `before` on its own, so the whole list is the variable of the induction.
  generalize heq : before ++ s :: after = statements at h
  induction h generalizing after with
  | nil => simp at heq
  | concat h hargument hnew ih =>
    rcases List.eq_nil_or_concat after with rfl | ⟨after', t, rfl⟩
    · obtain ⟨rfl, hs⟩ := List.append_inj' heq rfl
      rw [List.singleton_inj] at hs
      rw [hs]
      exact hargument
    · rw [List.concat_eq_append, ← List.cons_append, ← List.append_assoc] at heq
      exact ih (List.append_inj' heq rfl).1

end SingleAssignment

namespace Network

variable {net : Network}

structure Trace.Scoped (trace : Trace net) : Prop where
  single : SingleAssignment trace.statements.toList
  assigned : ∀ ref, trace.Knows ref → Assigned trace.statements.toList ref
  visited : ∀ s ∈ trace.statements.toList, ∃ i, trace.Visited i ∧
    net.statement? i s.argument = some s

theorem Trace.scoped_empty : (empty : Trace net).Scoped where
  single := .nil
  assigned ref h := by
    rcases h with h | ⟨i, hi⟩
    · exact .inl h
    · rw [output?_empty] at hi
      contradiction
  visited s hs := by
    rw [statements_empty] at hs
    contradiction

theorem assigned_outputOf {statements : List Statement} {argument : Ref} (i : Fin net.size)
    (h : Assigned statements argument) :
    Assigned (statements ++ (net.statement? i argument).toList) (net.outputOf i argument) := by
  cases hlayer : net.layer? i with
  | none =>
    rw [outputOf_of_other hlayer]
    exact h.append _
  | some layer =>
    rw [outputOf_of_layer hlayer]
    refine .inr ⟨⟨layer, net.ordinal i, argument⟩, ?_, rfl⟩
    rw [List.mem_append, Option.mem_toList, statement?_eq_some_iff]
    exact .inr ⟨hlayer, rfl, rfl⟩

theorem Trace.Scoped.ordinal_not_mem {trace : Trace net} {i : Fin net.size} {argument : Ref}
    {s : Statement} (h : trace.Scoped) (hnew : trace.output? i = none)
    (hs : net.statement? i argument = some s) :
    s.ordinal ∉ trace.statements.toList.map (·.ordinal) := by
  intro hmem
  obtain ⟨t, ht, heq⟩ := List.mem_map.mp hmem
  obtain ⟨j, ⟨output, hj⟩, ht⟩ := h.visited t ht
  rw [(statement?_eq_some_iff.mp ht).2.1, (statement?_eq_some_iff.mp hs).2.1, ordinal_inj] at heq
  rw [heq, hnew] at hj
  contradiction

theorem Trace.Scoped.record {trace : Trace net} {i : Fin net.size} {argument : Ref}
    (h : trace.Scoped) (hnew : trace.output? i = none) (hsupplies : trace.Supplies i argument) :
    (trace.record i argument).Scoped := by
  have hargument := h.assigned argument hsupplies.knows
  constructor
  -- Only a node with a layer adds a statement.
  · rw [statements_record]
    cases hs : net.statement? i argument with
    | none =>
      rw [Option.toList_none, List.append_nil]
      exact h.single
    | some s =>
      refine .concat h.single ?_ (h.ordinal_not_mem hnew hs)
      rw [(statement?_eq_some_iff.mp hs).2.2]
      exact hargument
  · intro ref href
    rw [statements_record]
    rcases href.of_record with rfl | href
    · exact assigned_outputOf i hargument
    · exact (h.assigned ref href).append _
  · intro s hs
    rcases mem_statements_record.mp hs with hs | hs
    · obtain ⟨j, hj, hs⟩ := h.visited s hs
      exact ⟨j, visited_record.mpr (.inr hj), hs⟩
    · refine ⟨i, visited_record.mpr (.inl rfl), ?_⟩
      rw [(statement?_eq_some_iff.mp hs).2.2]
      exact hs

theorem scoped_after (net : Network) (rounds : Nat) : (Loop.after net rounds).trace.Scoped := by
  apply Loop.trace_induction
  · exact Trace.scoped_empty
  · intro rounds i argument h hnew hsupplies
    exact h.record hnew hsupplies

theorem scoped_visitAll (net : Network) : (visitAll net.entries).1.Scoped :=
  Loop.visitAll_of_after (scoped_after net)

end Network

namespace ModelClass

/--
The scopes of a model class, in terms of the names that stand in its code.
-/
structure WellScoped (model : ModelClass) : Prop where
  assigned_once : (model.forward.statements.map (·.output.code)).Nodup
  argument_assigned : ∀ before s after, model.forward.statements = before ++ s :: after →
    s.argument.code = "x" ∨ ∃ t ∈ before, t.output.code = s.argument.code
  result_assigned : model.forward.result.code = "x" ∨
    ∃ s ∈ model.forward.statements, s.output.code = model.forward.result.code
  result_ne_empty : model.forward.result.code ≠ ""
  declared_once : ∀ s ∈ model.forward.statements, (model.fields.map (·.name)).count s.callee = 1
  names_nodup : (model.fields.map (·.name)).Nodup

theorem ordinalIn_of_mem_name {net : Network} {i : Fin net.size} {name : String}
    (h : (field? net i).map Field.name = some name) : ordinalIn name = net.ordinal i := by
  obtain ⟨field, hfield, rfl⟩ := Option.map_eq_some_iff.mp h
  obtain ⟨layer, _, rfl⟩ := Option.map_eq_some_iff.mp hfield
  exact ordinalIn_fieldName _ _

theorem nodup_names (net : Network) : ((ofNetwork net).fields.map (·.name)).Nodup := by
  unfold ofNetwork
  rw [List.map_filterMap]
  refine List.Nodup.filterMap ?_ (List.nodup_finRange _)
  intro i j name hi hj
  rw [← Network.ordinal_inj, ← ordinalIn_of_mem_name hi, ordinalIn_of_mem_name hj]

theorem callee_mem_names {net : Network} {i : Fin net.size} {argument : Ref} {s : Statement}
    (h : net.statement? i argument = some s) : s.callee ∈ (ofNetwork net).fields.map (·.name) := by
  obtain ⟨hlayer, hordinal, _⟩ := Network.statement?_eq_some_iff.mp h
  unfold ofNetwork
  rw [List.map_filterMap, List.mem_filterMap]
  refine ⟨i, List.mem_finRange i, ?_⟩
  simp [field?, hlayer, Statement.callee, Field.name, hordinal]

theorem wellScoped_ofGraph (graph : Graph) : (ofGraph graph).WellScoped := by
  have hscoped := Network.scoped_visitAll (.ofGraph graph)
  have hsingle : SingleAssignment (ofGraph graph).forward.statements := hscoped.single
  have hnames := nodup_names (.ofGraph graph)
  constructor
  · exact nodup_map_of_ordinalIn ordinalIn_output hsingle.nodup
  · intro before s after heq
    rw [heq] at hsingle
    exact hsingle.argument_assigned.code
  · exact (hscoped.assigned _ (Network.Loop.knows_result _)).code
  · exact Ref.code_ne_empty _
  · intro s hs
    obtain ⟨i, _, hs⟩ := hscoped.visited s hs
    exact List.count_eq_one_of_mem hnames (callee_mem_names hs)
  · exact hnames

end ModelClass

end NetScript
