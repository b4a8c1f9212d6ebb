import NetScript.Network.Forward

/-!
This module contains what the visit of one more node does to a trace: the node gets its output, its
statement is the last one, and nothing that was known before is forgotten.
-/

namespace NetScript.Network.Trace

variable {net : Network}

def Visited (trace : Trace net) (i : Fin net.size) : Prop :=
  ∃ output, trace.output? i = some output

/--
The node can be given this argument: it is an entry and given the input of the model, or it is given
the output of a visited node that is linked to it.
-/
def Supplies (trace : Trace net) (i : Fin net.size) (argument : Ref) : Prop :=
  (i ∈ net.entries ∧ argument = .input) ∨
    ∃ parent, (parent, i) ∈ net.links ∧ trace.output? parent = some argument

def Knows (trace : Trace net) (ref : Ref) : Prop :=
  ref = .input ∨ ∃ i, trace.output? i = some ref

structure Recorded (trace : Trace net) (i : Fin net.size) (argument : Ref) : Prop where
  output : trace.output? i = some (net.outputOf i argument)
  statement : ∀ s, net.statement? i argument = some s → s ∈ trace.statements.toList

@[simp]
theorem output?_empty (i : Fin net.size) : (empty : Trace net).output? i = none := by
  simp [output?, empty]

theorem not_visited_empty (i : Fin net.size) : ¬(empty : Trace net).Visited i := by
  simp [Visited]

theorem statements_empty : (empty : Trace net).statements.toList = [] :=
  rfl

theorem statements_record (trace : Trace net) (i : Fin net.size) (argument : Ref) :
    (trace.record i argument).statements.toList =
      trace.statements.toList ++ (net.statement? i argument).toList := by
  simp [record]

theorem mem_statements_record {trace : Trace net} {i : Fin net.size} {argument : Ref}
    {s : Statement} :
    s ∈ (trace.record i argument).statements.toList ↔
      s ∈ trace.statements.toList ∨ net.statement? i argument = some s := by
  rw [statements_record, List.mem_append, Option.mem_toList]

theorem visited_record {trace : Trace net} {i j : Fin net.size} {argument : Ref} :
    (trace.record i argument).Visited j ↔ j = i ∨ trace.Visited j := by
  unfold Visited
  by_cases h : j = i
  · simp [h, output?_record_self]
  · simp [h, output?_record_of_ne]

theorem recorded_record (trace : Trace net) (i : Fin net.size) (argument : Ref) :
    (trace.record i argument).Recorded i argument where
  output := output?_record_self _ _ _
  statement _ hs := mem_statements_record.mpr (.inr hs)

section

variable {trace : Trace net} {i j : Fin net.size} {argument argument' output ref : Ref}

theorem output?_record_of_some (argument : Ref) (hnew : trace.output? i = none)
    (h : trace.output? j = some output) : (trace.record i argument).output? j = some output := by
  rw [output?_record_of_ne _ _ ?_, h]
  rintro rfl
  rw [hnew] at h
  contradiction

theorem Supplies.record (hnew : trace.output? i = none) (h : trace.Supplies j argument') :
    (trace.record i argument).Supplies j argument' := by
  rcases h with h | ⟨parent, hlink, hparent⟩
  · exact .inl h
  · exact .inr ⟨parent, hlink, output?_record_of_some _ hnew hparent⟩

theorem Supplies.knows (h : trace.Supplies i argument) : trace.Knows argument := by
  rcases h with ⟨_, h⟩ | ⟨parent, _, hparent⟩
  · exact .inl h
  · exact .inr ⟨parent, hparent⟩

theorem Knows.of_record (h : (trace.record i argument).Knows ref) :
    ref = net.outputOf i argument ∨ trace.Knows ref := by
  rcases h with h | ⟨j, hj⟩
  · exact .inr (.inl h)
  · by_cases hji : j = i
    · rw [hji, output?_record_self, Option.some.injEq] at hj
      exact .inl hj.symm
    · rw [output?_record_of_ne _ _ hji] at hj
      exact .inr (.inr ⟨j, hj⟩)

theorem Knows.record (hnew : trace.output? i = none) (h : trace.Knows ref) :
    (trace.record i argument).Knows ref := by
  rcases h with h | ⟨j, hj⟩
  · exact .inl h
  · exact .inr ⟨j, output?_record_of_some _ hnew hj⟩

theorem Recorded.record (hnew : trace.output? i = none) (h : trace.Recorded j argument') :
    (trace.record i argument).Recorded j argument' where
  output := output?_record_of_some _ hnew h.output
  statement s hs := mem_statements_record.mpr (.inl (h.statement s hs))

end

end NetScript.Network.Trace
