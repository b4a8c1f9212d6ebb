import NetScript.Proofs.Forward.Exploration

/-!
This module contains the nodes that decide what a visit results in. They start with the node itself
and go on with the last child each time, up to a node without children or one that was visited
before. The visit results in the output of this node.
-/

namespace NetScript.Network

variable {net : Network}

def LastLinked (net : Network) (i j : Fin net.size) : Prop :=
  (net.children i).getLast? = some j

theorem LastLinked.linked {i j : Fin net.size} (h : net.LastLinked i j) : net.Linked i j :=
  mem_children.mp (List.mem_of_getLast? h)

theorem lastLinked_of_children {i last : Fin net.size} {earlier : List (Fin net.size)}
    (h : net.children i = earlier ++ [last]) : net.LastLinked i last := by
  rw [LastLinked, h, List.getLast?_concat]

/--
The nodes that are passed on the way from `i` to the node where the visit of `i` gets its result.
-/
inductive Trail (net : Network) :
    Trace net → Fin net.size → Ref → List (Fin net.size) → Fin net.size → Prop where
  | revisit {trace : Trace net} {i : Fin net.size} {argument output : Ref}
      (hvisited : trace.output? i = some output) : Trail net trace i argument [] i
  | leaf {trace : Trace net} {i : Fin net.size} {argument : Ref} (hnew : trace.output? i = none)
      (hleaf : net.children i = []) : Trail net trace i argument [] i
  | pass {trace : Trace net} {i last stop : Fin net.size} {argument : Ref}
      {earlier passed : List (Fin net.size)} (hnew : trace.output? i = none)
      (hchildren : net.children i = earlier ++ [last])
      (hrest : Trail net (descendAll (trace.record i argument) (net.outputOf i argument)
        (net.outputOf i argument) earlier).1 last (net.outputOf i argument) passed stop) :
      Trail net trace i argument (i :: passed) stop

theorem exists_trail (trace : Trace net) (i : Fin net.size) (argument : Ref) :
    ∃ passed stop, Trail net trace i argument passed stop := by
  cases hvisited : trace.output? i with
  | some output => exact ⟨[], i, .revisit hvisited⟩
  | none =>
    rcases List.eq_nil_or_concat (net.children i) with hleaf | ⟨earlier, last, hchildren⟩
    · exact ⟨[], i, .leaf hvisited hleaf⟩
    · rw [List.concat_eq_append] at hchildren
      have hlt := Trace.unvisited_record_lt argument hvisited
      have hle := unvisited_descendAll_le (trace.record i argument) (net.outputOf i argument)
        (net.outputOf i argument) earlier
      -- The rest of the trail starts in a trace with fewer unvisited nodes.
      obtain ⟨passed, stop, hrest⟩ := exists_trail (descendAll (trace.record i argument)
        (net.outputOf i argument) (net.outputOf i argument) earlier).1 last
        (net.outputOf i argument)
      exact ⟨i :: passed, stop, .pass hvisited hchildren hrest⟩
termination_by trace.unvisited
decreasing_by exact Nat.lt_of_le_of_lt hle hlt

theorem descend_of_children {trace : Trace net} {i last : Fin net.size}
    {earlier : List (Fin net.size)} (hnew : trace.output? i = none)
    (hchildren : net.children i = earlier ++ [last]) (argument : Ref) :
    descend trace i argument =
      descend (descendAll (trace.record i argument) (net.outputOf i argument)
        (net.outputOf i argument) earlier).1 last (net.outputOf i argument) := by
  rw [descend_of_unvisited hnew, hchildren, descendAll_append, descendAll_cons, descendAll_nil]

namespace Trail

variable {trace : Trace net} {i j stop : Fin net.size} {argument : Ref}
  {passed : List (Fin net.size)}

theorem output?_stop (h : Trail net trace i argument passed stop) :
    (descend trace i argument).1.output? stop = some (descend trace i argument).2 := by
  induction h with
  | revisit hvisited =>
    rw [descend_of_visited hvisited]
    exact hvisited
  | leaf hnew hleaf =>
    rw [descend_of_unvisited hnew, hleaf, descendAll_nil]
    exact Trace.output?_record_self _ _ _
  | pass hnew hchildren hrest ih =>
    rw [descend_of_children hnew hchildren]
    exact ih

theorem follows (h : Trail net trace i argument passed stop) (hj : j ∈ passed ++ [stop]) :
    Relation.ReflTransGen net.LastLinked i j := by
  induction h with
  | revisit =>
    rw [List.nil_append, List.mem_singleton] at hj
    rw [hj]
  | leaf =>
    rw [List.nil_append, List.mem_singleton] at hj
    rw [hj]
  | pass hnew hchildren hrest ih =>
    rcases List.mem_cons.mp hj with rfl | hj
    · exact .refl
    · exact (ih hj).head (lastLinked_of_children hchildren)

theorem not_visited (h : Trail net trace i argument passed stop) (hj : j ∈ passed) :
    ¬trace.Visited j := by
  induction h with
  | revisit => contradiction
  | leaf => contradiction
  | @pass trace i last stop argument earlier passed hnew hchildren hrest ih =>
    rcases List.mem_cons.mp hj with rfl | hj
    · rintro ⟨output, houtput⟩
      rw [hnew] at houtput
      contradiction
    · intro hvisited
      apply ih hj
      exact (explores_descendAll _ _ _ _).visited (Trace.visited_record.mpr (.inr hvisited))

theorem stop_cases (h : Trail net trace i argument passed stop) :
    net.children stop = [] ∨ trace.Visited stop ∨ stop ∈ passed ∨
      ∃ node ∈ passed, ∃ child ∈ (net.children node).dropLast, net.LeadsTo child stop := by
  induction h with
  | revisit hvisited => exact .inr (.inl ⟨_, hvisited⟩)
  | leaf hnew hleaf => exact .inl hleaf
  | @pass trace i last stop argument earlier passed hnew hchildren hrest ih =>
    rcases ih with hleaf | hvisited | hpassed | ⟨node, hnode, child, hchild, hpath⟩
    · exact .inl hleaf
    -- The end was visited before the trail began, or from one of the earlier children.
    · rcases (explores_descendAll _ _ _ _).reached stop hvisited with
        hvisited | ⟨child, hchild, hpath⟩
      · rcases Trace.visited_record.mp hvisited with rfl | hvisited
        · exact .inr (.inr (.inl List.mem_cons_self))
        · exact .inr (.inl hvisited)
      · refine .inr (.inr (.inr ⟨i, List.mem_cons_self, child, ?_, hpath⟩))
        rw [hchildren, List.dropLast_concat]
        exact hchild
    · exact .inr (.inr (.inl (List.mem_cons_of_mem _ hpassed)))
    · exact .inr (.inr (.inr ⟨node, List.mem_cons_of_mem _ hnode, child, hchild, hpath⟩))

end Trail

theorem exists_entries_eq_concat {i : Fin net.size} (h : net.Reachable i) :
    ∃ earlier entry, net.entries = earlier ++ [entry] := by
  obtain ⟨entry, hentry, _⟩ := h
  have hne := List.ne_nil_of_mem (mem_entries.mpr hentry)
  exact ⟨_, _, (List.dropLast_append_getLast hne).symm⟩

theorem exists_trail_of_entries {earlier : List (Fin net.size)} {entry : Fin net.size}
    (h : net.entries = earlier ++ [entry]) : ∃ passed stop,
      Trail net (descendAll .empty .input .input earlier).1 entry .input passed stop ∧
        (visitAll net.entries).1.output? stop = some net.forward.result := by
  obtain ⟨passed, stop, htrail⟩ :=
    exists_trail (descendAll (.empty : Trace net) .input .input earlier).1 entry .input
  refine ⟨passed, stop, htrail, ?_⟩
  unfold forward visitAll
  rw [Loop.foldl_visit_eq_descendAll, h, descendAll_append, descendAll_cons, descendAll_nil]
  exact htrail.output?_stop

end NetScript.Network
