import NetScript.Proofs.Forward.Execution
import NetScript.Proofs.Forward.Reachability

/-!
This module contains the values that a forward pass computes. The main statement is that the pass
can be run on any input, and that every layer is applied to the input of the model, or to the output
of a layer that leads to it through nodes without a layer.
-/

namespace NetScript.Network

variable {net : Network} {V : Type} {layers : Nat → V → V} {input : V}

def VisitedBefore (net : Network) (i j : Fin net.size) : Prop :=
  ∃ rounds, (Loop.after net rounds).trace.Visited i ∧ ¬(Loop.after net rounds).trace.Visited j

/--
There is a path of links between the nodes, on which no node but the last has a layer.
-/
def PassesOn (net : Network) (i j : Fin net.size) : Prop :=
  Relation.ReflTransGen (fun a b => net.layer? a = none ∧ net.Linked a b) i j

/--
The values that the visited nodes are given and that come out of them, if the layers are these
functions and `env` has the values of the variables.
-/
structure Dataflow (net : Network) (layers : Nat → V → V) (input : V) (env : Env V)
    (given output : Fin net.size → V) : Prop where
  given_entry : ∀ i, (visitAll net.entries).1.Visited i → i ∈ net.entries → given i = input
  given_link : ∀ i, (visitAll net.entries).1.Visited i → i ∉ net.entries → ∃ parent,
    net.Linked parent i ∧ net.VisitedBefore parent i ∧ (visitAll net.entries).1.Visited parent ∧
      given i = output parent
  output_layer : ∀ i layer, (visitAll net.entries).1.Visited i → net.layer? i = some layer →
    output i = layers (net.ordinal i) (given i) ∧ env (.output (net.ordinal i)) = some (output i)
  output_other : ∀ i, (visitAll net.entries).1.Visited i → net.layer? i = none →
    output i = given i

/--
Where the value that a node is given comes from.
-/
inductive Feeds (net : Network) (input : V) (env : Env V) (i : Fin net.size) (value : V) :
    Prop where
  | entry (entry : Fin net.size) (hentry : entry ∈ net.entries) (hpath : net.PassesOn entry i)
      (hvalue : value = input)
  | layer (source first : Fin net.size) (layer : Layer) (hlayer : net.layer? source = some layer)
      (hlink : net.Linked source first) (hpath : net.PassesOn first i)
      (hvalue : env (.output (net.ordinal source)) = some value)

theorem Feeds.passOn {env : Env V} {i j : Fin net.size} {value : V}
    (h : net.Feeds input env i value) (hlayer : net.layer? i = none) (hlink : net.Linked i j) :
    net.Feeds input env j value := by
  cases h with
  | entry entry hentry hpath hvalue =>
    exact .entry entry hentry (hpath.tail ⟨hlayer, hlink⟩) hvalue
  | layer source first layer hsource hfirst hpath hvalue =>
    exact .layer source first layer hsource hfirst (hpath.tail ⟨hlayer, hlink⟩) hvalue

theorem VisitedBefore.lt {i j : Fin net.size} {rounds : Nat} (h : net.VisitedBefore i j)
    (hj : (Loop.after net rounds).trace.Visited j) :
    ∃ earlier, earlier < rounds ∧ (Loop.after net earlier).trace.Visited i := by
  obtain ⟨earlier, hi, hnew⟩ := h
  refine ⟨earlier, ?_, hi⟩
  apply Nat.lt_of_not_le
  intro hle
  obtain ⟨output, houtput⟩ := hj
  exact hnew ⟨output, Loop.output?_after_of_le hle houtput⟩

theorem Dataflow.feeds {env : Env V} {given output : Fin net.size → V}
    (h : net.Dataflow layers input env given output) (rounds : Nat) :
    ∀ i, (Loop.after net rounds).trace.Visited i → net.Feeds input env i (given i) := by
  -- The value comes from a node that was visited before, so the induction is on the time.
  induction rounds using Nat.strong_induction_on with
  | h rounds ih =>
    intro i hi
    have hvisited : (visitAll net.entries).1.Visited i := by
      obtain ⟨ref, href⟩ := hi
      exact ⟨ref, Loop.output?_visitAll href⟩
    by_cases hentry : i ∈ net.entries
    · exact .entry i hentry .refl (h.given_entry i hvisited hentry)
    · obtain ⟨parent, hlink, hbefore, hparent, hgiven⟩ := h.given_link i hvisited hentry
      obtain ⟨earlier, hlt, hearlier⟩ := hbefore.lt hi
      rw [hgiven]
      cases hlayer : net.layer? parent with
      | some layer =>
        obtain ⟨_, hvalue⟩ := h.output_layer parent layer hparent hlayer
        exact .layer parent i layer hlayer hlink .refl hvalue
      | none =>
        rw [h.output_other parent hparent hlayer]
        exact (ih earlier hlt parent hearlier).passOn hlayer hlink

theorem not_mem_entries_of_linked {i j : Fin net.size} (h : net.Linked i j) : j ∉ net.entries :=
  fun hentry => mem_entries.mp hentry (i, j) h rfl

theorem argument_of_entry {i : Fin net.size} {argument : Ref} (h : Loop.WasSupplied net i argument)
    (hentry : i ∈ net.entries) : argument = .input := by
  obtain ⟨rounds, _, ⟨_, hinput⟩ | ⟨parent, hlink, _⟩⟩ := h
  · exact hinput
  · exact absurd hentry (not_mem_entries_of_linked hlink)

theorem exists_parent_of_not_entry {i : Fin net.size} {argument : Ref}
    (h : Loop.WasSupplied net i argument) (hentry : i ∉ net.entries) :
    ∃ parent, net.Linked parent i ∧ net.VisitedBefore parent i ∧
      (visitAll net.entries).1.output? parent = some argument := by
  obtain ⟨rounds, hnew, ⟨hmem, _⟩ | ⟨parent, hlink, hparent⟩⟩ := h
  · exact absurd hmem hentry
  · refine ⟨parent, hlink, ⟨rounds, ⟨argument, hparent⟩, ?_⟩, Loop.output?_visitAll hparent⟩
    rintro ⟨output, houtput⟩
    rw [hnew] at houtput
    contradiction

theorem exists_arguments (net : Network) : ∃ argument : Fin net.size → Ref,
    ∀ i, (visitAll net.entries).1.Visited i → Loop.WasSupplied net i (argument i) ∧
      (visitAll net.entries).1.Recorded i (argument i) := by
  have h : ∀ i, ∃ argument, (visitAll net.entries).1.Visited i →
      Loop.WasSupplied net i argument ∧ (visitAll net.entries).1.Recorded i argument := by
    intro i
    by_cases hi : (visitAll net.entries).1.Visited i
    · obtain ⟨argument, hargument⟩ := Loop.exists_recorded hi
      exact ⟨argument, fun _ => hargument⟩
    · exact ⟨.input, fun hvisited => absurd hvisited hi⟩
  choose argument hargument using h
  exact ⟨argument, hargument⟩

theorem exists_dataflow (net : Network) (layers : Nat → V → V) (input : V) :
    ∃ env given output,
      net.forward.statements.foldlM (Statement.exec layers) (.initial input) = some env ∧
      net.Dataflow layers input env given output := by
  obtain ⟨env, hexec, henv⟩ := (scoped_visitAll net).single.exists_exec layers input
  obtain ⟨argument, hargument⟩ := exists_arguments net
  -- All values are read off the final environment, since no statement overwrites another.
  refine ⟨env, fun i => (env (argument i)).getD input,
    fun i => (env (net.outputOf i (argument i))).getD input, hexec, ?_, ?_, ?_, ?_⟩
  · intro i hi hentry
    rw [argument_of_entry (hargument i hi).1 hentry, henv.input, Option.getD_some]
  · intro i hi hentry
    obtain ⟨parent, hlink, hbefore, houtput⟩ :=
      exists_parent_of_not_entry (hargument i hi).1 hentry
    refine ⟨parent, hlink, hbefore, ⟨_, houtput⟩, ?_⟩
    rw [(hargument parent ⟨_, houtput⟩).2.output, Option.some.injEq] at houtput
    rw [houtput]
  · intro i layer hi hlayer
    have hmem := (hargument i hi).2.statement ⟨layer, net.ordinal i, argument i⟩
      (statement?_eq_some_iff.mpr ⟨hlayer, rfl, rfl⟩)
    obtain ⟨value, hvalue, houtput⟩ := henv.statement _ hmem
    rw [Statement.output] at houtput
    rw [outputOf_of_layer hlayer, houtput, hvalue, Option.getD_some, Option.getD_some]
    exact ⟨rfl, rfl⟩
  · intro i hi hlayer
    rw [outputOf_of_other hlayer]

theorem forward_dataflow (graph : Graph) (layers : Nat → V → V) (input : V) :
    let net := ofGraph graph
    ∃ env given output,
      net.forward.statements.foldlM (Statement.exec layers) (.initial input) = some env ∧
      net.Dataflow layers input env given output ∧
      ∀ s ∈ net.forward.statements, ∃ i, (visitAll net.entries).1.Visited i ∧
        net.layer? i = some s.layer ∧ s.ordinal = net.ordinal i ∧
        env s.output = some (layers s.ordinal (given i)) ∧ net.Feeds input env i (given i) := by
  intro net
  obtain ⟨env, given, output, hexec, hflow⟩ := exists_dataflow net layers input
  refine ⟨env, given, output, hexec, hflow, ?_⟩
  intro s hs
  obtain ⟨i, hvisited, hs⟩ := (scoped_visitAll net).visited s hs
  obtain ⟨hlayer, hordinal, _⟩ := statement?_eq_some_iff.mp hs
  obtain ⟨houtput, henv⟩ := hflow.output_layer i s.layer hvisited hlayer
  refine ⟨i, hvisited, hlayer, hordinal, ?_, ?_⟩
  · rw [Statement.output, hordinal, henv, houtput]
  · obtain ⟨rounds, hrounds⟩ := Loop.exists_after_eq_finished net
    apply hflow.feeds rounds
    rw [hrounds]
    exact hvisited

end NetScript.Network
