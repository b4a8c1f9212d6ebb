import Mathlib.Data.Fintype.Card
import Mathlib.Data.Fintype.EquivFin
import NetScript.Proofs.Forward.Exploration

/-!
This module contains the networks without cycles. All of their nodes can be reached from an entry,
so the main statement is that no layer of such a network is left out of the forward pass.
-/

namespace NetScript

namespace Network

variable {net : Network}

def Acyclic (net : Network) : Prop :=
  ∀ i, ¬Relation.TransGen net.Linked i i

theorem acyclic_of_rank (rank : Fin net.size → Nat)
    (h : ∀ link ∈ net.links, rank link.1 < rank link.2) : net.Acyclic := by
  have hlt : ∀ i j, Relation.TransGen net.Linked i j → rank i < rank j := by
    intro i j hpath
    induction hpath with
    | single hlink => exact h _ hlink
    | tail _ hlink ih => exact Nat.lt_trans ih (h _ hlink)
  intro i hcycle
  exact Nat.lt_irrefl _ (hlt i i hcycle)

theorem Acyclic.not_leadsTo {i j : Fin net.size} (h : net.Acyclic) (hlink : net.Linked i j) :
    ¬net.LeadsTo j i :=
  fun hpath => h i (.head' hlink hpath)

theorem Acyclic.wellFounded (h : net.Acyclic) : WellFounded net.Linked := by
  -- On a finite type it is enough that the paths are transitive and lead nowhere back.
  have hirrefl : Std.Irrefl (Relation.TransGen net.Linked) := ⟨h⟩
  have hpaths : WellFounded (Relation.TransGen net.Linked) :=
    Finite.wellFounded_of_trans_of_irrefl _
  exact Subrelation.wf (fun hlink => Relation.TransGen.single hlink) hpaths

theorem exists_linked_of_not_mem_entries {i : Fin net.size} (h : i ∉ net.entries) :
    ∃ parent, net.Linked parent i := by
  rw [mem_entries] at h
  simp only [ne_eq, not_forall, Decidable.not_not] at h
  obtain ⟨⟨parent, child⟩, hlink, rfl⟩ := h
  exact ⟨parent, hlink⟩

theorem Acyclic.reachable (h : net.Acyclic) (i : Fin net.size) : net.Reachable i := by
  induction i using h.wellFounded.induction with
  | h i ih =>
    by_cases hentry : i ∈ net.entries
    · exact .of_mem_entries hentry
    · obtain ⟨parent, hlink⟩ := exists_linked_of_not_mem_entries hentry
      exact (ih parent hlink).of_linked hlink

end Network

namespace ModelClass

theorem exists_layer_of_mem_names {net : Network} {name : String}
    (h : name ∈ (ofNetwork net).fields.map (·.name)) :
    ∃ i layer, net.layer? i = some layer ∧ name = layer.fieldName (net.ordinal i) := by
  obtain ⟨field, hfield, rfl⟩ := List.mem_map.mp h
  obtain ⟨i, _, hi⟩ := List.mem_filterMap.mp hfield
  obtain ⟨layer, hlayer, rfl⟩ := Option.map_eq_some_iff.mp hi
  exact ⟨i, layer, hlayer, rfl⟩

theorem callees_perm_names (graph : Graph) (h : (Network.ofGraph graph).Acyclic) :
    ((ofGraph graph).forward.statements.map (·.callee)).Perm
      ((ofGraph graph).fields.map (·.name)) := by
  have hscoped := Network.scoped_visitAll (.ofGraph graph)
  have hcallees : ((ofGraph graph).forward.statements.map (·.callee)).Nodup :=
    nodup_map_of_ordinalIn ordinalIn_callee hscoped.single.nodup
  have hnames : ((ofGraph graph).fields.map (·.name)).Nodup := nodup_names (.ofGraph graph)
  -- Neither list has duplicates, so it is enough that they have the same members.
  rw [List.perm_ext_iff_of_nodup hcallees hnames]
  intro name
  constructor
  · intro hname
    obtain ⟨s, hs, rfl⟩ := List.mem_map.mp hname
    obtain ⟨i, _, hs⟩ := hscoped.visited s hs
    exact callee_mem_names hs
  · intro hname
    obtain ⟨i, layer, hlayer, rfl⟩ := exists_layer_of_mem_names hname
    have hvisited := Network.visited_of_reachable (h.reachable i)
    obtain ⟨argument, hs⟩ := Network.exists_statement_of_visited hvisited hlayer
    exact List.mem_map.mpr ⟨_, hs, rfl⟩

/--
The edges of this graph do not follow the order of its nodes, and two nodes share an id.
-/
theorem callees_perm_names_of_shared_id :
    let graph : Graph := ⟨[.ofKind "c" "linear", .ofKind "a" "lstm", .ofKind "b" "relu",
      .ofKind "a" "tanh"], [.between "a" "b", .between "b" "c", .between "a" "c"]⟩
    (Network.ofGraph graph).Acyclic ∧
      ((ofGraph graph).forward.statements.map (·.callee)).Perm
        ((ofGraph graph).fields.map (·.name)) := by
  intro graph
  have hacyclic : (Network.ofGraph graph).Acyclic :=
    Network.acyclic_of_rank (fun i => [2, 0, 1, 0].getD i.val 0) (by decide)
  exact ⟨hacyclic, callees_perm_names graph hacyclic⟩

end ModelClass

end NetScript
