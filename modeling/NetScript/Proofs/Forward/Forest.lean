import NetScript.Proofs.Forward.Path

/-!
This module contains the networks in which every node has at most one link to it. What can be
reached from the entries of such a network is a forest: there is one path to every node, on which no
node is met again.
-/

namespace NetScript.Network

variable {net : Network} {V : Type}

/--
Every node has at most one link to it.
-/
def IsForest (net : Network) : Prop :=
  ∀ i, net.links.countP (·.2 = i) ≤ 1

instance (net : Network) : Decidable net.IsForest :=
  inferInstanceAs (Decidable (∀ i, net.links.countP (·.2 = i) ≤ 1))

namespace IsForest

variable {i j k : Fin net.size} {path path' : List (Fin net.size)}

theorem nodup_targets (h : net.IsForest) : (net.links.map (·.2)).Nodup := by
  rw [List.nodup_iff_count_le_one]
  intro i
  rw [List.count_eq_countP, List.countP_map]
  exact h i

theorem parent_eq (h : net.IsForest) (hi : net.Linked i k) (hj : net.Linked j k) : i = j := by
  have heq := List.inj_on_of_nodup_map h.nodup_targets hi hj rfl
  exact congrArg Prod.fst heq

theorem nodup_children (h : net.IsForest) (i : Fin net.size) : (net.children i).Nodup :=
  (List.filter_sublist.map _).nodup h.nodup_targets

theorem path_eq (h : net.IsForest) (hpath : net.PathTo path i) (hpath' : net.PathTo path' i) :
    path = path' := by
  induction hpath generalizing path' with
  | entry hentry =>
    cases hpath' with
    | entry => rfl
    | link _ hlink => exact absurd hentry (not_mem_entries_of_linked hlink)
  | link _ hlink ih =>
    cases hpath' with
    | entry hentry => exact absurd hentry (not_mem_entries_of_linked hlink)
    | link hpath' hlink' =>
      rw [h.parent_eq hlink' hlink] at hpath'
      rw [ih hpath']

theorem entry_eq (h : net.IsForest) (hi : i ∈ net.entries) (hj : j ∈ net.entries)
    (hik : net.LeadsTo i k) (hjk : net.LeadsTo j k) : i = j := by
  obtain ⟨more, hmore⟩ := (PathTo.entry hi).append hik
  obtain ⟨more', hmore'⟩ := (PathTo.entry hj).append hjk
  exact (List.cons.inj (h.path_eq hmore hmore')).1

theorem child_eq (h : net.IsForest) (hpath : net.PathTo path i) {child child' : Fin net.size}
    (hchild : net.Linked i child) (hchild' : net.Linked i child') (hk : net.LeadsTo child k)
    (hk' : net.LeadsTo child' k) : child = child' := by
  obtain ⟨more, hmore⟩ := (hpath.link hchild).append hk
  obtain ⟨more', hmore'⟩ := (hpath.link hchild').append hk'
  have heq := h.path_eq hmore hmore'
  rw [List.append_assoc, List.append_assoc, List.append_cancel_left_eq] at heq
  exact (List.cons.inj heq).1

theorem not_leadsTo (h : net.IsForest) (hpath : net.PathTo path i) (hlink : net.Linked i j) :
    ¬net.LeadsTo j i := by
  intro hcycle
  obtain ⟨more, hmore⟩ := (hpath.link hlink).append hcycle
  have hlength := congrArg List.length (h.path_eq hmore hpath)
  simp only [List.length_append, List.length_singleton] at hlength
  omega

end IsForest

theorem Trail.children_stop {trace : Trace net} {i stop : Fin net.size} {argument : Ref}
    {path passed : List (Fin net.size)} (hforest : net.IsForest)
    (h : Trail net trace i argument passed stop) (hpath : net.PathTo path i)
    (hfresh : ∀ j, net.LeadsTo i j → ¬trace.Visited j) : net.children stop = [] := by
  induction h generalizing path with
  | @revisit _ i _ _ hvisited => exact absurd ⟨_, hvisited⟩ (hfresh i .refl)
  | leaf _ hleaf => exact hleaf
  | @pass trace i last stop argument earlier passed _ hchildren hrest ih =>
    have hlink : ∀ child ∈ earlier ++ [last], net.Linked i child := by
      intro child hchild
      rw [← hchildren] at hchild
      exact mem_children.mp hchild
    have hlast := hlink last (List.mem_append_right _ List.mem_cons_self)
    apply ih (hpath.link hlast)
    intro j hj hvisited
    -- What the last child leads to is not led to by the others, and it does not lead back.
    rcases (explores_descendAll _ _ _ _).reached j hvisited with hbefore | ⟨child, hchild, hpath'⟩
    · rcases Trace.visited_record.mp hbefore with rfl | hbefore
      · exact hforest.not_leadsTo hpath hlast hj
      · exact hfresh j (hj.head hlast) hbefore
    · have hsibling := hlink child (List.mem_append_left _ hchild)
      have heq := hforest.child_eq hpath hsibling hlast hpath' hj
      have hnodup := hforest.nodup_children i
      rw [hchildren, ← List.concat_eq_append, List.nodup_concat] at hnodup
      rw [heq] at hchild
      exact hnodup.1 hchild

theorem nodup_entries (net : Network) : net.entries.Nodup :=
  (List.nodup_finRange _).filter _

theorem IsForest.exists_lastPath (hforest : net.IsForest) {entry : Fin net.size}
    (hentry : net.entries.getLast? = some entry) : ∃ path stop, net.LastPath entry path ∧
      net.PathTo path stop ∧ (visitAll net.entries).1.output? stop = some net.forward.result := by
  obtain ⟨earlier, hentries⟩ := List.getLast?_eq_some_iff.mp hentry
  obtain ⟨passed, stop, htrail, hresult⟩ := exists_trail_of_entries hentries
  have hmem : entry ∈ net.entries := List.mem_of_getLast? hentry
  have hstop : net.children stop = [] := by
    -- The last entry is visited when nothing that it leads to was visited.
    apply htrail.children_stop hforest (.entry hmem)
    intro j hj hvisited
    obtain ⟨entry', hentry', hj'⟩ := visited_descendAll_empty.mp hvisited
    have hmem' : entry' ∈ net.entries := by
      rw [hentries]
      exact List.mem_append_left _ hentry'
    have hnodup := net.nodup_entries
    rw [hentries, ← List.concat_eq_append, List.nodup_concat] at hnodup
    rw [hforest.entry_eq hmem' hmem hj' hj] at hentry'
    exact hnodup.1 hentry'
  exact ⟨_, stop, htrail.lastPath hstop, htrail.pathTo [] (.entry hmem), hresult⟩

section

variable {layers : Nat → V → V} {input : V} {env : Env V}

theorem IsForest.exists_value (hforest : net.IsForest)
    (henv : env.Satisfies layers input net.forward.statements) {path : List (Fin net.size)}
    {i : Fin net.size} (hpath : net.PathTo path i) :
    ∃ ref, (visitAll net.entries).1.output? i = some ref ∧
      env ref = some (net.along layers path input) := by
  induction hpath with
  | @entry i hentry =>
    have hvisited := visited_of_reachable (.of_mem_entries hentry)
    obtain ⟨argument, hsupplied, hrecorded⟩ := Loop.exists_recorded hvisited
    refine ⟨_, hrecorded.output, env_outputOf henv hrecorded ?_⟩
    rw [argument_of_entry hsupplied hentry]
    exact henv.input
  | @link path i j hpath hlink ih =>
    obtain ⟨ref, href, hvalue⟩ := ih
    have hvisited := visited_of_reachable (hpath.reachable.of_linked hlink)
    obtain ⟨argument, hsupplied, hrecorded⟩ := Loop.exists_recorded hvisited
    obtain ⟨parent, hparent, _, houtput⟩ :=
      exists_parent_of_not_entry hsupplied (not_mem_entries_of_linked hlink)
    -- There is one node only that the argument can come from.
    rw [hforest.parent_eq hparent hlink, href, Option.some.injEq] at houtput
    rw [along_concat]
    refine ⟨_, hrecorded.output, env_outputOf henv hrecorded ?_⟩
    rw [← houtput]
    exact hvalue

theorem IsForest.exists_exec_eq_along (hforest : net.IsForest) (layers : Nat → V → V) (input : V)
    {entry : Fin net.size} (hentry : net.entries.getLast? = some entry) :
    ∃ path, net.LastPath entry path ∧
      net.forward.exec layers input = some (net.along layers path input) := by
  obtain ⟨env, hexec, henv⟩ := (scoped_visitAll net).single.exists_exec layers input
  obtain ⟨path, stop, hlast, hpath, hresult⟩ := hforest.exists_lastPath hentry
  obtain ⟨ref, href, hvalue⟩ := hforest.exists_value henv hpath
  rw [hresult, Option.some.injEq] at href
  rw [← href] at hvalue
  refine ⟨path, hlast, ?_⟩
  rw [exec_eq_env hexec, hvalue]

end

theorem exec_forward_of_no_entries (layers : Nat → V → V) (input : V) (h : net.entries = []) :
    net.forward.exec layers input = some input := by
  rw [forward_eq_descendAll, h, descendAll_nil]
  rfl

end NetScript.Network
