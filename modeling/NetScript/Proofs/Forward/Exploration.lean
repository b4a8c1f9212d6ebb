import NetScript.Proofs.Forward.Reachability
import NetScript.Proofs.Forward.Recursion

/-!
This module contains what the visit of some nodes does to a trace, by recursion. Nothing is
forgotten, only nodes that the given ones lead to are visited, and the children of every node that
was visited on the way are visited as well.
-/

namespace NetScript.Network

variable {net : Network}

def LeadsTo (net : Network) (i j : Fin net.size) : Prop :=
  Relation.ReflTransGen net.Linked i j

theorem descendAll_append (trace : Trace net) (output last : Ref)
    (nodes nodes' : List (Fin net.size)) :
    descendAll trace output last (nodes ++ nodes') =
      descendAll (descendAll trace output last nodes).1 output
        (descendAll trace output last nodes).2 nodes' := by
  induction nodes generalizing trace last with
  | nil => rw [List.nil_append, descendAll_nil]
  | cons node nodes ih => rw [List.cons_append, descendAll_cons, ih, descendAll_cons]

theorem unvisited_descendAll_le (trace : Trace net) (output last : Ref)
    (nodes : List (Fin net.size)) :
    (descendAll trace output last nodes).1.unvisited ≤ trace.unvisited :=
  (descendAllWithin trace output last nodes).property

structure Trace.Explores (trace trace' : Trace net) (nodes : List (Fin net.size)) : Prop where
  keeps : ∀ i output, trace.output? i = some output → trace'.output? i = some output
  visits : ∀ i ∈ nodes, trace'.Visited i
  reached : ∀ i, trace'.Visited i → trace.Visited i ∨ ∃ node ∈ nodes, net.LeadsTo node i
  closed : ∀ i j, trace'.Visited i → ¬trace.Visited i → net.Linked i j → trace'.Visited j

namespace Trace.Explores

variable {trace trace' trace'' : Trace net} {i j : Fin net.size} {argument : Ref}
  {nodes nodes' : List (Fin net.size)}

theorem visited (h : trace.Explores trace' nodes) (hi : trace.Visited i) : trace'.Visited i := by
  obtain ⟨output, houtput⟩ := hi
  exact ⟨output, h.keeps i output houtput⟩

theorem nil (trace : Trace net) : trace.Explores trace [] where
  keeps _ _ h := h
  visits _ h := absurd h List.not_mem_nil
  reached _ h := .inl h
  closed _ _ h hnew := absurd h hnew

theorem revisit (h : trace.Visited i) : trace.Explores trace [i] where
  keeps _ _ h := h
  visits j hj := by
    rw [List.mem_singleton] at hj
    rw [hj]
    exact h
  reached _ h := .inl h
  closed _ _ h hnew := absurd h hnew

theorem append (h : trace.Explores trace' nodes) (h' : trace'.Explores trace'' nodes') :
    trace.Explores trace'' (nodes ++ nodes') := by
  constructor
  · intro i output houtput
    exact h'.keeps i output (h.keeps i output houtput)
  · intro i hi
    rcases List.mem_append.mp hi with hi | hi
    · exact h'.visited (h.visits i hi)
    · exact h'.visits i hi
  · intro i hi
    rcases h'.reached i hi with hi | ⟨node, hnode, hpath⟩
    · rcases h.reached i hi with hi | ⟨node, hnode, hpath⟩
      · exact .inl hi
      · exact .inr ⟨node, List.mem_append_left _ hnode, hpath⟩
    · exact .inr ⟨node, List.mem_append_right _ hnode, hpath⟩
  · intro i j hi hnew hlink
    -- The node was entered in the first part or in the second one, and left in the same part.
    by_cases hbetween : trace'.Visited i
    · exact h'.visited (h.closed i j hbetween hnew hlink)
    · exact h'.closed i j hi hbetween hlink

theorem of_record (hnew : trace.output? i = none)
    (h : (trace.record i argument).Explores trace' (net.children i)) :
    trace.Explores trace' [i] := by
  constructor
  · intro j output houtput
    exact h.keeps j output (output?_record_of_some _ hnew houtput)
  · intro j hj
    rw [List.mem_singleton] at hj
    rw [hj]
    exact h.visited (visited_record.mpr (.inl rfl))
  · intro j hj
    rcases h.reached j hj with hj | ⟨child, hchild, hpath⟩
    · rcases visited_record.mp hj with rfl | hj
      · exact .inr ⟨j, List.mem_singleton_self j, .refl⟩
      · exact .inl hj
    · exact .inr ⟨i, List.mem_singleton_self i, hpath.head (mem_children.mp hchild)⟩
  · intro j k hj hbefore hlink
    -- The node itself is left as soon as all of its children are visited.
    by_cases hji : j = i
    · rw [hji] at hlink
      exact h.visits k (mem_children.mpr hlink)
    · refine h.closed j k hj ?_ hlink
      rw [visited_record]
      exact not_or.mpr ⟨hji, hbefore⟩

/--
A visit gets everywhere, unless there is a node that was visited before but not left.
-/
theorem visited_of_leadsTo (h : trace.Explores trace' nodes) (hi : i ∈ nodes)
    (hdone : ∀ a b, net.LeadsTo i a → trace.Visited a → net.Linked a b → trace.Visited b)
    (hpath : net.LeadsTo i j) : trace'.Visited j := by
  induction hpath with
  | refl => exact h.visits i hi
  | @tail a b hpath hlink ih =>
    by_cases hbefore : trace.Visited a
    · exact h.visited (hdone a b hpath hbefore hlink)
    · exact h.closed a b ih hbefore hlink

end Trace.Explores

-- The proof has the recursion of `descend` and ends for the same reason.
mutual

theorem explores_descend (trace : Trace net) (i : Fin net.size) (argument : Ref) :
    trace.Explores (descend trace i argument).1 [i] := by
  cases hvisited : trace.output? i with
  | some output =>
    rw [descend_of_visited hvisited]
    exact .revisit ⟨output, hvisited⟩
  | none =>
    have hlt := Trace.unvisited_record_lt argument hvisited
    rw [descend_of_unvisited hvisited]
    exact .of_record hvisited (explores_descendAll _ _ _ _)
termination_by (trace.unvisited, 0)
decreasing_by exact Prod.Lex.left _ _ hlt

theorem explores_descendAll (trace : Trace net) (output last : Ref)
    (nodes : List (Fin net.size)) :
    trace.Explores (descendAll trace output last nodes).1 nodes := by
  cases nodes with
  | nil =>
    rw [descendAll_nil]
    exact .nil trace
  | cons node nodes =>
    have hle := unvisited_descend_le trace node output
    rw [descendAll_cons]
    exact (explores_descend trace node output).append (explores_descendAll _ _ _ nodes)
termination_by (trace.unvisited, nodes.length + 1)
decreasing_by
  · apply Prod.Lex.right
    omega
  · rcases Nat.lt_or_eq_of_le hle with hlt | heq
    · exact Prod.Lex.left _ _ hlt
    · rw [heq]
      apply Prod.Lex.right
      simp only [List.length_cons]
      omega

end

theorem visited_descendAll_empty {output last : Ref} {nodes : List (Fin net.size)}
    {i : Fin net.size} : (descendAll .empty output last nodes).1.Visited i ↔
      ∃ node ∈ nodes, net.LeadsTo node i := by
  have hexplores := explores_descendAll .empty output last nodes
  constructor
  · intro hvisited
    rcases hexplores.reached i hvisited with hempty | hreached
    · exact absurd hempty (Trace.not_visited_empty i)
    · exact hreached
  · rintro ⟨node, hnode, hpath⟩
    refine hexplores.visited_of_leadsTo hnode ?_ hpath
    intro a b _ hempty
    exact absurd hempty (Trace.not_visited_empty a)

end NetScript.Network
