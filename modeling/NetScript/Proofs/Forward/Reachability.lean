import Mathlib.Logic.Relation
import NetScript.Proofs.Forward.Scoping

/-!
This module contains the nodes that a forward pass gets to. The main statement is that these are the
nodes that can be reached from an entry, and that the layer of each of them is called once.
-/

namespace NetScript.Network

variable {net : Network}

def Linked (net : Network) (i j : Fin net.size) : Prop :=
  (i, j) ∈ net.links

/--
There is a path of links to the node that starts at a node without links to it.
-/
def Reachable (net : Network) (i : Fin net.size) : Prop :=
  ∃ entry, (∀ link ∈ net.links, link.2 ≠ entry) ∧ Relation.ReflTransGen net.Linked entry i

theorem Reachable.of_mem_entries {i : Fin net.size} (h : i ∈ net.entries) : net.Reachable i :=
  ⟨i, mem_entries.mp h, .refl⟩

theorem Reachable.of_linked {i j : Fin net.size} (h : net.Reachable i) (hlink : net.Linked i j) :
    net.Reachable j := by
  obtain ⟨entry, hentry, hpath⟩ := h
  exact ⟨entry, hentry, hpath.tail hlink⟩

theorem reachable_of_visited (net : Network) (rounds : Nat) :
    ∀ i, (Loop.after net rounds).trace.Visited i → net.Reachable i := by
  apply Loop.trace_induction (motive := fun trace => ∀ i, trace.Visited i → net.Reachable i)
  · intro i hvisited
    exact absurd hvisited (Trace.not_visited_empty i)
  · intro rounds i argument ih hnew hsupplies j hvisited
    rcases Trace.visited_record.mp hvisited with rfl | hvisited
    · rcases hsupplies with ⟨hentry, _⟩ | ⟨parent, hlink, hparent⟩
      · exact .of_mem_entries hentry
      · exact (ih parent ⟨argument, hparent⟩).of_linked hlink
    · exact ih j hvisited

namespace Loop

def Covers (loop : Loop net) (i : Fin net.size) : Prop :=
  loop.trace.Visited i ∨ ∃ frame ∈ loop.stack, i ∈ frame.children

theorem covers_cons {trace : Trace net} {frame : Frame net} {below : List (Frame net)}
    {result : Option Ref} {i : Fin net.size} :
    Covers ⟨trace, frame :: below, result⟩ i ↔
      i ∈ frame.children ∨ Covers ⟨trace, below, result⟩ i := by
  unfold Covers
  rw [List.exists_mem_cons_iff]
  exact or_left_comm

theorem Covers.record {trace : Trace net} {stack : List (Frame net)} {result : Option Ref}
    {i j : Fin net.size} (h : Covers ⟨trace, stack, result⟩ j) (argument : Ref) :
    Covers ⟨trace.record i argument, stack, result⟩ j := by
  rcases h with hvisited | hstack
  · exact .inl (Trace.visited_record.mpr (.inr hvisited))
  · exact .inr hstack

theorem Covers.round {loop : Loop net} {i : Fin net.size} (h : loop.Covers i) :
    loop.round.Covers i := by
  -- A child leaves the stack only if it was visited before or is visited now.
  fun_cases Loop.round loop with
  | case1 trace result => exact h
  | case2 trace output last result =>
    rw [covers_cons] at h
    rcases h with hchild | h
    · contradiction
    · exact h
  | case3 trace output last parent below result =>
    rw [covers_cons, covers_cons] at h
    rw [covers_cons]
    rcases h with hchild | h
    · contradiction
    · exact h
  | case4 trace output last child children below result visited hvisited =>
    rw [covers_cons, List.mem_cons] at h
    rw [covers_cons]
    rcases h with (rfl | hchild) | h
    · exact .inr (.inl ⟨visited, hvisited⟩)
    · exact .inl hchild
    · exact .inr h
  | case5 trace output last child children below result hnew =>
    rw [covers_cons, List.mem_cons] at h
    rw [covers_cons, covers_cons]
    rcases h with (rfl | hchild) | h
    · exact .inr (.inr (.inl (Trace.visited_record.mpr (.inl rfl))))
    · exact .inr (.inl hchild)
    · exact .inr (.inr (h.record output))

theorem covers_round_of_linked {loop : Loop net} {i j : Fin net.size} (hlink : net.Linked i j)
    (hnew : ¬loop.trace.Visited i) (hvisited : loop.round.trace.Visited i) :
    loop.round.Covers j := by
  revert hvisited
  -- Only the last kind of round visits a node, and it puts all of its children on the stack.
  fun_cases Loop.round loop with
  | case1 => exact fun hvisited => absurd hvisited hnew
  | case2 => exact fun hvisited => absurd hvisited hnew
  | case3 => exact fun hvisited => absurd hvisited hnew
  | case4 => exact fun hvisited => absurd hvisited hnew
  | case5 trace output last child children below result hchild =>
    intro hvisited
    rcases Trace.visited_record.mp hvisited with rfl | hvisited
    · exact covers_cons.mpr (.inl (mem_children.mpr hlink))
    · exact absurd hvisited hnew

structure Thorough (loop : Loop net) : Prop where
  entries : ∀ i ∈ net.entries, loop.Covers i
  links : ∀ i j, net.Linked i j → loop.trace.Visited i → loop.Covers j

theorem thorough_after (net : Network) (rounds : Nat) : (after net rounds).Thorough := by
  induction rounds with
  | zero =>
    constructor
    · intro i hentry
      exact covers_cons.mpr (.inl hentry)
    · intro i j hlink hvisited
      exact absurd hvisited (Trace.not_visited_empty i)
  | succ rounds ih =>
    rw [after_succ]
    constructor
    · intro i hentry
      exact (ih.entries i hentry).round
    · intro i j hlink hvisited
      by_cases hbefore : (after net rounds).trace.Visited i
      · exact (ih.links i j hlink hbefore).round
      · exact covers_round_of_linked hlink hbefore hvisited

end Loop

theorem visited_of_reachable {i : Fin net.size} (h : net.Reachable i) :
    (visitAll net.entries).1.Visited i := by
  obtain ⟨rounds, hrounds⟩ := Loop.exists_after_eq_finished net
  have hthorough := Loop.thorough_after net rounds
  rw [hrounds] at hthorough
  -- The stack is empty in the end, so only visited nodes are covered.
  have hvisited : ∀ j, (Loop.finished (visitAll net.entries)).Covers j →
      (visitAll net.entries).1.Visited j := by
    rintro j (hvisited | ⟨frame, hframe, _⟩)
    · exact hvisited
    · contradiction
  obtain ⟨entry, hentry, hpath⟩ := h
  induction hpath with
  | refl => exact hvisited _ (hthorough.entries _ (mem_entries.mpr hentry))
  | tail _ hlink ih => exact hvisited _ (hthorough.links _ _ hlink ih)

theorem visited_iff_reachable {i : Fin net.size} :
    (visitAll net.entries).1.Visited i ↔ net.Reachable i := by
  constructor
  · apply Loop.visitAll_of_after (motive := fun trace => trace.Visited i → net.Reachable i)
    intro rounds
    exact reachable_of_visited net rounds i
  · exact visited_of_reachable

theorem exists_statement_of_visited {i : Fin net.size} {layer : Layer}
    (h : (visitAll net.entries).1.Visited i) (hlayer : net.layer? i = some layer) :
    ∃ argument, ⟨layer, net.ordinal i, argument⟩ ∈ net.forward.statements := by
  obtain ⟨argument, _, hrecorded⟩ := Loop.exists_recorded h
  exact ⟨argument, hrecorded.statement _ (statement?_eq_some_iff.mpr ⟨hlayer, rfl, rfl⟩)⟩

theorem output?_of_layer {i : Fin net.size} {layer : Layer} (hlayer : net.layer? i = some layer)
    (h : (visitAll net.entries).1.Visited i) :
    (visitAll net.entries).1.output? i = some (.output (net.ordinal i)) := by
  obtain ⟨argument, _, hrecorded⟩ := Loop.exists_recorded h
  rw [hrecorded.output, outputOf_of_layer hlayer]

theorem forward_calls_reachable (graph : Graph) :
    let net := ofGraph graph
    (net.forward.statements.map (·.callee)).Nodup ∧
    (∀ name, name ∈ net.forward.statements.map (·.callee) ↔ ∃ i layer, net.Reachable i ∧
      net.layer? i = some layer ∧ name = layer.fieldName (net.ordinal i)) ∧
    (∀ i, (visitAll net.entries).1.Visited i ↔ net.Reachable i) ∧
    (∀ rounds i, (Loop.after net rounds).trace.Visited i → net.Reachable i) ∧
    ∀ rounds, ∀ s ∈ (Loop.after net rounds).trace.statements.toList, ∃ i, net.Reachable i ∧
      net.layer? i = some s.layer ∧ s.ordinal = net.ordinal i := by
  intro net
  refine ⟨?_, ?_, fun i => visited_iff_reachable, reachable_of_visited net, ?_⟩
  · exact nodup_map_of_ordinalIn ordinalIn_callee (scoped_visitAll net).single.nodup
  · intro name
    rw [List.mem_map]
    constructor
    · rintro ⟨s, hs, rfl⟩
      obtain ⟨i, hvisited, hs⟩ := (scoped_visitAll net).visited s hs
      obtain ⟨hlayer, hordinal, _⟩ := statement?_eq_some_iff.mp hs
      refine ⟨i, s.layer, visited_iff_reachable.mp hvisited, hlayer, ?_⟩
      rw [Statement.callee, hordinal]
    · rintro ⟨i, layer, hreachable, hlayer, rfl⟩
      obtain ⟨argument, hs⟩ :=
        exists_statement_of_visited (visited_of_reachable hreachable) hlayer
      exact ⟨_, hs, rfl⟩
  · intro rounds s hs
    obtain ⟨i, hvisited, hs⟩ := (scoped_after net rounds).visited s hs
    obtain ⟨hlayer, hordinal, _⟩ := statement?_eq_some_iff.mp hs
    exact ⟨i, reachable_of_visited net rounds i hvisited, hlayer, hordinal⟩

end NetScript.Network
