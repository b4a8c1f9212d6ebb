import Mathlib
import NetScript.Proofs.Forward.Acyclic
import NetScript.Proofs.Forward.Trail

/-!
This module contains the result of a forward pass if the network has no cycles and only one node
without children. The pass follows the last children from the last entry on, but a node that it
meets again stands for itself and not for what comes after it. The main statement is that the result
is the output of the only sink if, and only if, no other node on this path is met earlier.
-/

namespace NetScript.Network

variable {net : Network}

/--
The node is the last entry, or the last child of such a node.
-/
def OnLastPath (net : Network) (i : Fin net.size) : Prop :=
  ∃ entry, net.entries.getLast? = some entry ∧ Relation.ReflTransGen net.LastLinked entry i

/--
There is a path to the node from an entry that is not the last one, or from a child of a node on the
last path that is not its last child.
-/
def MetEarlier (net : Network) (i : Fin net.size) : Prop :=
  (∃ entry ∈ net.entries.dropLast, net.LeadsTo entry i) ∨
    ∃ node, net.OnLastPath node ∧ ∃ child ∈ (net.children node).dropLast, net.LeadsTo child i

namespace Trail

variable {trace : Trace net} {i j stop : Fin net.size} {argument : Ref}
  {passed : List (Fin net.size)}

theorem leadsTo (h : Trail net trace i argument passed stop) (hj : j ∈ passed ++ [stop]) :
    net.LeadsTo i j :=
  Relation.ReflTransGen.mono (fun _ _ hlast => LastLinked.linked hlast) _ _ (h.follows hj)

theorem transGen_stop (h : Trail net trace i argument passed stop) (hj : j ∈ passed) :
    Relation.TransGen net.Linked j stop := by
  induction h with
  | revisit => contradiction
  | leaf => contradiction
  | pass hnew hchildren hrest ih =>
    rcases List.mem_cons.mp hj with rfl | hj
    · refine .head' (lastLinked_of_children hchildren).linked (hrest.leadsTo ?_)
      exact List.mem_append_right _ List.mem_cons_self
    · exact ih hj

theorem mem_of_follows (h : Trail net trace i argument passed stop)
    (hstop : net.children stop = []) (hj : Relation.ReflTransGen net.LastLinked i j) :
    j ∈ passed ++ [stop] := by
  have hend : ∀ {k}, net.children k = [] → ∀ {l}, ¬net.LastLinked k l := by
    intro k hk l hlast
    rw [LastLinked, hk] at hlast
    contradiction
  -- The trail goes from last child to last child, and where it ends there is none.
  induction h with
  | revisit =>
    rcases hj.cases_head with rfl | ⟨next, hlast, _⟩
    · exact List.mem_cons_self
    · exact absurd hlast (hend hstop)
  | leaf =>
    rcases hj.cases_head with rfl | ⟨next, hlast, _⟩
    · exact List.mem_cons_self
    · exact absurd hlast (hend hstop)
  | pass hnew hchildren hrest ih =>
    rcases hj.cases_head with rfl | ⟨next, hlast, hpath⟩
    · exact List.mem_cons_self
    · rw [LastLinked, hchildren, List.getLast?_concat, Option.some.injEq] at hlast
      rw [← hlast] at hpath
      exact List.mem_cons_of_mem _ (ih hstop hpath)

theorem not_leadsTo (hacyclic : net.Acyclic) (h : Trail net trace i argument passed stop)
    (hdone : ∀ a b, trace.Visited a → net.Linked a b →
      trace.Visited b ∨ Relation.TransGen net.Linked a i) :
    ∀ node ∈ passed, ∀ child ∈ (net.children node).dropLast, ∀ j ∈ passed,
      ¬net.LeadsTo child j := by
  induction h with
  | revisit => simp
  | leaf => simp
  | @pass trace i last stop argument earlier passed hnew hchildren hrest ih =>
    have hexplores := explores_descendAll (trace.record i argument) (net.outputOf i argument)
      (net.outputOf i argument) earlier
    have hlast := (lastLinked_of_children hchildren).linked
    intro node hnode child hchild j hj hpath
    have hlink : net.Linked node child := mem_children.mp (List.mem_of_mem_dropLast hchild)
    rcases List.mem_cons.mp hj with rfl | hpassed
    -- Nothing leads back to the start of the trail.
    · rcases List.mem_cons.mp hnode with rfl | hnode
      · exact hacyclic.not_leadsTo hlink hpath
      · have hnode := hrest.leadsTo (List.mem_append_left _ hnode)
        exact hacyclic j (.trans_right (hnode.head hlast) (.head' hlink hpath))
    · rcases List.mem_cons.mp hnode with rfl | hnode
      -- The earlier children of the first node are done before the trail goes on.
      · rw [hchildren, List.dropLast_concat] at hchild
        refine hrest.not_visited hpassed (hexplores.visited_of_leadsTo hchild ?_ hpath)
        intro a b ha hvisited hab
        rcases Trace.visited_record.mp hvisited with rfl | hvisited
        · exact absurd ha (hacyclic.not_leadsTo hlink)
        · rcases hdone a b hvisited hab with hb | hopen
          · exact Trace.visited_record.mpr (.inr hb)
          · exact absurd (.trans_right (ha.head hlink) hopen) (hacyclic node)
      -- The rest of the trail starts when the earlier children are done, which keeps `hdone`.
      · refine ih ?_ node hnode child hchild j hpassed hpath
        intro a b hvisited hab
        by_cases hbefore : (trace.record i argument).Visited a
        · rcases Trace.visited_record.mp hbefore with rfl | hbefore
          · exact .inr (.single hlast)
          · rcases hdone a b hbefore hab with hb | hopen
            · exact .inl (hexplores.visited (Trace.visited_record.mpr (.inr hb)))
            · exact .inr (hopen.tail hlast)
        · exact .inl (hexplores.closed a b hvisited hbefore hab)

end Trail

section

variable {earlier passed : List (Fin net.size)} {entry stop i : Fin net.size}

theorem onLastPath_of_trail (hentries : net.entries = earlier ++ [entry])
    (htrail : Trail net (descendAll .empty .input .input earlier).1 entry .input passed stop)
    (hi : i ∈ passed ++ [stop]) : net.OnLastPath i := by
  refine ⟨entry, ?_, htrail.follows hi⟩
  rw [hentries, List.getLast?_concat]

theorem mem_of_onLastPath (hentries : net.entries = earlier ++ [entry])
    (htrail : Trail net (descendAll .empty .input .input earlier).1 entry .input passed stop)
    (hstop : net.children stop = []) (hi : net.OnLastPath i) : i ∈ passed ++ [stop] := by
  obtain ⟨entry', hentry', hpath⟩ := hi
  rw [hentries, List.getLast?_concat, Option.some.injEq] at hentry'
  rw [← hentry'] at hpath
  exact htrail.mem_of_follows hstop hpath

theorem metEarlier_stop (hacyclic : net.Acyclic) (hentries : net.entries = earlier ++ [entry])
    (htrail : Trail net (descendAll .empty .input .input earlier).1 entry .input passed stop)
    (hstop : net.children stop ≠ []) : net.MetEarlier stop := by
  rcases htrail.stop_cases with hleaf | hvisited | hpassed | ⟨node, hnode, child, hchild, hpath⟩
  · exact absurd hleaf hstop
  · obtain ⟨entry', hentry', hpath⟩ := visited_descendAll_empty.mp hvisited
    refine .inl ⟨entry', ?_, hpath⟩
    rw [hentries, List.dropLast_concat]
    exact hentry'
  · exact absurd (htrail.transGen_stop hpassed) (hacyclic stop)
  · have hnode := onLastPath_of_trail hentries htrail (List.mem_append_left _ hnode)
    exact .inr ⟨node, hnode, child, hchild, hpath⟩

theorem not_metEarlier_of_passed (hacyclic : net.Acyclic)
    (hentries : net.entries = earlier ++ [entry])
    (htrail : Trail net (descendAll .empty .input .input earlier).1 entry .input passed stop)
    (hstop : net.children stop = []) (hi : i ∈ passed) : ¬net.MetEarlier i := by
  rintro (⟨entry', hentry', hpath⟩ | ⟨node, hnode, child, hchild, hpath⟩)
  · rw [hentries, List.dropLast_concat] at hentry'
    exact htrail.not_visited hi (visited_descendAll_empty.mpr ⟨entry', hentry', hpath⟩)
  · rcases List.mem_append.mp (mem_of_onLastPath hentries htrail hstop hnode) with hnode | hnode
    · refine htrail.not_leadsTo hacyclic ?_ node hnode child hchild i hi hpath
      intro a b ha hab
      obtain ⟨entry', hentry', ha⟩ := visited_descendAll_empty.mp ha
      exact .inl (visited_descendAll_empty.mpr ⟨entry', hentry', ha.tail hab⟩)
    · rw [List.mem_singleton] at hnode
      rw [hnode, hstop] at hchild
      contradiction

end

theorem eq_of_output?_eq_output {sink i : Fin net.size} (hsink : net.children sink = [])
    (h : (visitAll net.entries).1.output? i = some (.output (net.ordinal sink))) : i = sink := by
  revert i
  apply Loop.visitAll_of_after (motive := fun trace => ∀ {i},
    trace.output? i = some (.output (net.ordinal sink)) → i = sink)
  apply Loop.trace_induction (motive := fun trace => ∀ {i},
    trace.output? i = some (.output (net.ordinal sink)) → i = sink)
  · intro i h
    rw [Trace.output?_empty] at h
    contradiction
  · intro rounds i argument ih hnew hsupplies j h
    by_cases hji : j = i
    · rw [hji, Trace.output?_record_self, Option.some.injEq] at h
      -- Only the sink makes this output. A node that hands it on would be a child of the sink.
      cases hlayer : net.layer? i with
      | some layer =>
        rw [outputOf_of_layer hlayer, Ref.output.injEq, ordinal_inj] at h
        rw [hji, h]
      | none =>
        rw [outputOf_of_other hlayer] at h
        rcases hsupplies with ⟨_, hinput⟩ | ⟨parent, hlink, hparent⟩
        · rw [h] at hinput
          contradiction
        · rw [h] at hparent
          have hchild := mem_children.mpr hlink
          rw [ih hparent, hsink] at hchild
          contradiction
    · rw [Trace.output?_record_of_ne _ _ hji] at h
      exact ih h

theorem result_eq_output_sink_iff (graph : Graph) (hacyclic : (ofGraph graph).Acyclic)
    (sink : Fin (ofGraph graph).size)
    (hsink : ∀ i, (ofGraph graph).children i = [] ↔ i = sink) (layer : Layer)
    (hlayer : (ofGraph graph).layer? sink = some layer) :
    (ofGraph graph).forward.result = .output ((ofGraph graph).ordinal sink) ↔
      ∀ i, (ofGraph graph).OnLastPath i → (ofGraph graph).MetEarlier i → i = sink := by
  generalize ofGraph graph = net at *
  have hreachable := hacyclic.reachable sink
  obtain ⟨earlier, entry, hentries⟩ := exists_entries_eq_concat hreachable
  obtain ⟨passed, stop, htrail, hresult⟩ := exists_trail_of_entries hentries
  -- The result is the output at the end of the trail, so the question is where the trail ends.
  constructor
  · intro heq i hi hmet
    have hstop : stop = sink := by
      rw [heq] at hresult
      exact eq_of_output?_eq_output ((hsink sink).mpr rfl) hresult
    have hleaf := (hsink stop).mpr hstop
    rcases List.mem_append.mp (mem_of_onLastPath hentries htrail hleaf hi) with hi | hi
    · exact absurd hmet (not_metEarlier_of_passed hacyclic hentries htrail hleaf hi)
    · rw [List.mem_singleton.mp hi, hstop]
  · intro hunmet
    have hstop : stop = sink := by
      by_contra hne
      have hmet := metEarlier_stop hacyclic hentries htrail (mt (hsink stop).mp hne)
      have hpath := onLastPath_of_trail hentries htrail (List.mem_append_right _ List.mem_cons_self)
      exact hne (hunmet stop hpath hmet)
    rw [hstop, output?_of_layer hlayer (visited_of_reachable hreachable),
      Option.some.injEq] at hresult
    exact hresult.symm

/--
Two paths meet at the sink and nowhere else.
-/
theorem result_eq_output_sink_of_diamond :
    let net := ofGraph ⟨[.ofKind "a" "linear", .ofKind "b" "relu", .ofKind "c" "tanh",
      .ofKind "d" "linear"],
      [.between "a" "b", .between "a" "c", .between "b" "d", .between "c" "d"]⟩
    net.Acyclic ∧ ∃ sink, (∀ i, net.children i = [] ↔ i = sink) ∧ net.layer? sink = some .linear ∧
      net.forward.result = .output (net.ordinal sink) ∧
      ∀ i, net.OnLastPath i → net.MetEarlier i → i = sink := by
  intro net
  have hacyclic : net.Acyclic := acyclic_of_rank (fun i => i.val) (by decide)
  have hsink : ∀ i, net.children i = [] ↔ i = ⟨3, by decide⟩ := by decide
  have hresult : net.forward.result = .output 4 := by cbv
  exact ⟨hacyclic, ⟨3, by decide⟩, hsink, rfl, hresult,
    (result_eq_output_sink_iff _ hacyclic _ hsink .linear rfl).mp hresult⟩

/--
Two paths meet at the second node and only then go on to the sink.
-/
theorem result_ne_output_sink_of_meeting :
    let net := ofGraph ⟨[.ofKind "a" "linear", .ofKind "b" "relu", .ofKind "c" "tanh",
      .ofKind "d" "linear"],
      [.between "a" "b", .between "b" "d", .between "a" "c", .between "c" "b"]⟩
    net.Acyclic ∧ ∃ sink, (∀ i, net.children i = [] ↔ i = sink) ∧ net.layer? sink = some .linear ∧
      net.forward.result ≠ .output (net.ordinal sink) := by
  intro net
  have hacyclic : net.Acyclic := acyclic_of_rank (fun i => [0, 2, 1, 3].getD i.val 0) (by decide)
  have hsink : ∀ i, net.children i = [] ↔ i = ⟨3, by decide⟩ := by decide
  have hresult : net.forward.result = .output 2 := by cbv
  refine ⟨hacyclic, ⟨3, by decide⟩, hsink, rfl, ?_⟩
  rw [hresult]
  decide

end NetScript.Network
