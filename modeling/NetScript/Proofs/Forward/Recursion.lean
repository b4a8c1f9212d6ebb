import Mathlib.Logic.Function.Basic
import NetScript.Proofs.Forward.Loop

/-!
This module contains the rules of a depth first visit, which do not say how it is computed. The
main statement is that the forward pass of a network is the only one that follows the rules, and
that the loop with a stack always gets there.
-/

namespace NetScript.Network

variable {net : Network}

/--
The outputs of the nodes visited so far, and the statements for them in the order of the visits.
-/
structure Memory (net : Network) where
  outputs : Fin net.size → Option Ref
  statements : List Statement

namespace Memory

def empty : Memory net where
  outputs _ := none
  statements := []

def remember (memory : Memory net) (i : Fin net.size) (output : Ref) : Memory net where
  outputs := Function.update memory.outputs i (some output)
  statements := memory.statements

def emit (memory : Memory net) (statement : Statement) : Memory net where
  outputs := memory.outputs
  statements := memory.statements ++ [statement]

end Memory

mutual

/--
The visit of a node that is given an argument. It leads from one memory to another, and to a result.
-/
inductive Descends (net : Network) : Memory net → Fin net.size → Ref → Memory net → Ref → Prop where
  | revisit {memory : Memory net} {i : Fin net.size} {argument output : Ref}
      (hvisited : memory.outputs i = some output) :
      Descends net memory i argument memory output
  | layer {memory memory' : Memory net} {i : Fin net.size} {argument : Ref} {layer : Layer}
      {results : List Ref} (hnew : memory.outputs i = none) (hlayer : net.layer? i = some layer)
      (hchildren : DescendsAll net
        ((memory.emit ⟨layer, net.ordinal i, argument⟩).remember i (.output (net.ordinal i)))
        (net.children i) (.output (net.ordinal i)) memory' results) :
      Descends net memory i argument memory' (results.getLastD (.output (net.ordinal i)))
  | other {memory memory' : Memory net} {i : Fin net.size} {argument : Ref} {results : List Ref}
      (hnew : memory.outputs i = none) (hlayer : net.layer? i = none)
      (hchildren : DescendsAll net (memory.remember i argument) (net.children i) argument memory'
        results) :
      Descends net memory i argument memory' (results.getLastD argument)

inductive DescendsAll (net : Network) :
    Memory net → List (Fin net.size) → Ref → Memory net → List Ref → Prop where
  | nil {memory : Memory net} {argument : Ref} : DescendsAll net memory [] argument memory []
  | cons {memory memory' memory'' : Memory net} {i : Fin net.size} {nodes : List (Fin net.size)}
      {argument result : Ref} {results : List Ref}
      (hfirst : Descends net memory i argument memory' result)
      (hrest : DescendsAll net memory' nodes argument memory'' results) :
      DescendsAll net memory (i :: nodes) argument memory'' (result :: results)

end

/--
The forward pass has the statements and the last result of visits of all entries.
-/
def IsDepthFirst (net : Network) (forward : Forward) : Prop :=
  ∃ memory results, DescendsAll net .empty net.entries .input memory results ∧
    forward = ⟨memory.statements, results.getLastD .input⟩

def Trace.memory (trace : Trace net) : Memory net where
  outputs := trace.output?
  statements := trace.statements.toList

namespace Trace

theorem memory_empty : (empty : Trace net).memory = .empty := by
  unfold memory Memory.empty
  congr
  funext i
  apply output?_empty

theorem output?_record (trace : Trace net) (i : Fin net.size) (argument : Ref) :
    (trace.record i argument).output? =
      Function.update trace.output? i (some (net.outputOf i argument)) := by
  funext j
  by_cases h : j = i
  · rw [h, output?_record_self, Function.update_self]
  · rw [output?_record_of_ne _ _ h, Function.update_of_ne h]

theorem memory_record_of_layer {i : Fin net.size} {layer : Layer} (trace : Trace net)
    (argument : Ref) (h : net.layer? i = some layer) :
    (trace.record i argument).memory =
      (trace.memory.emit ⟨layer, net.ordinal i, argument⟩).remember i
        (.output (net.ordinal i)) := by
  unfold memory
  rw [output?_record]
  simp [record, statement?, outputOf, h, Memory.remember, Memory.emit]

theorem memory_record_of_other {i : Fin net.size} (trace : Trace net) (argument : Ref)
    (h : net.layer? i = none) :
    (trace.record i argument).memory = trace.memory.remember i argument := by
  unfold memory
  rw [output?_record]
  simp [record, statement?, outputOf, h, Memory.remember]

end Trace

theorem unvisited_descend_le (trace : Trace net) (i : Fin net.size) (argument : Ref) :
    (descend trace i argument).1.unvisited ≤ trace.unvisited :=
  (descendWithin trace i argument).property

-- Every call is a derivation. The measure is that of `descend`: no call forgets a node.
mutual

theorem descends_descend (trace : Trace net) (i : Fin net.size) (argument : Ref) :
    Descends net trace.memory i argument (descend trace i argument).1.memory
      (descend trace i argument).2 := by
  cases hvisited : trace.output? i with
  | some output =>
    rw [descend_of_visited hvisited]
    exact .revisit hvisited
  | none =>
    have hlt := Trace.unvisited_record_lt argument hvisited
    rw [descend_of_unvisited hvisited]
    obtain ⟨results, hchildren, hlast⟩ := descendsAll_descendAll (trace.record i argument)
      (net.outputOf i argument) (net.outputOf i argument) (net.children i)
    rw [hlast]
    cases hlayer : net.layer? i with
    | some layer =>
      rw [Trace.memory_record_of_layer _ _ hlayer, outputOf_of_layer hlayer] at hchildren
      rw [outputOf_of_layer hlayer]
      exact .layer hvisited hlayer hchildren
    | none =>
      rw [Trace.memory_record_of_other _ _ hlayer, outputOf_of_other hlayer] at hchildren
      rw [outputOf_of_other hlayer]
      exact .other hvisited hlayer hchildren
termination_by (trace.unvisited, 0)
decreasing_by exact Prod.Lex.left _ _ hlt

theorem descendsAll_descendAll (trace : Trace net) (output last : Ref)
    (children : List (Fin net.size)) :
    ∃ results, DescendsAll net trace.memory children output
        (descendAll trace output last children).1.memory results ∧
      (descendAll trace output last children).2 = results.getLastD last := by
  cases children with
  | nil =>
    rw [descendAll_nil]
    exact ⟨[], .nil, rfl⟩
  | cons child children =>
    have hle := unvisited_descend_le trace child output
    rw [descendAll_cons]
    obtain ⟨results, hrest, hlast⟩ := descendsAll_descendAll (descend trace child output).1 output
      (descend trace child output).2 children
    refine ⟨_, .cons (descends_descend trace child output) hrest, ?_⟩
    rw [hlast, List.getLastD_cons]
termination_by (trace.unvisited, children.length + 1)
decreasing_by
  · rcases Nat.lt_or_eq_of_le hle with hlt | heq
    · exact Prod.Lex.left _ _ hlt
    · rw [heq]
      apply Prod.Lex.right
      simp only [List.length_cons]
      omega
  · apply Prod.Lex.right
    omega

end

-- The rules leave no choice, so the other direction is by induction on a derivation.
mutual

theorem Descends.descend_eq {memory memory' : Memory net} {i : Fin net.size}
    {argument result : Ref} : Descends net memory i argument memory' result →
      ∀ trace : Trace net, trace.memory = memory →
        (descend trace i argument).1.memory = memory' ∧ (descend trace i argument).2 = result
  | .revisit hvisited, trace, hmemory => by
    rw [← hmemory] at hvisited
    rw [descend_of_visited hvisited]
    exact ⟨hmemory, rfl⟩
  | .layer hnew hlayer hchildren, trace, hmemory => by
    rw [← hmemory] at hnew
    rw [descend_of_unvisited hnew, outputOf_of_layer hlayer]
    apply hchildren.descendAll_eq
    rw [Trace.memory_record_of_layer _ _ hlayer, hmemory]
  | .other hnew hlayer hchildren, trace, hmemory => by
    rw [← hmemory] at hnew
    rw [descend_of_unvisited hnew, outputOf_of_other hlayer]
    apply hchildren.descendAll_eq
    rw [Trace.memory_record_of_other _ _ hlayer, hmemory]

theorem DescendsAll.descendAll_eq {memory memory' : Memory net} {nodes : List (Fin net.size)}
    {argument : Ref} {results : List Ref} : DescendsAll net memory nodes argument memory' results →
      ∀ (trace : Trace net) (last : Ref), trace.memory = memory →
        (descendAll trace argument last nodes).1.memory = memory' ∧
          (descendAll trace argument last nodes).2 = results.getLastD last
  | .nil, trace, last, hmemory => by
    rw [descendAll_nil]
    exact ⟨hmemory, rfl⟩
  | .cons hfirst hrest, trace, last, hmemory => by
    obtain ⟨hmemory', hresult⟩ := hfirst.descend_eq trace hmemory
    rw [descendAll_cons, List.getLastD_cons, hresult]
    exact hrest.descendAll_eq _ _ hmemory'

end

theorem forward_eq_descendAll (net : Network) :
    net.forward =
      ⟨(descendAll .empty .input .input net.entries).1.memory.statements,
        (descendAll .empty .input .input net.entries).2⟩ := by
  unfold forward visitAll
  rw [Loop.foldl_visit_eq_descendAll]
  rfl

theorem isDepthFirst_forward (net : Network) : net.IsDepthFirst net.forward := by
  obtain ⟨results, hentries, hlast⟩ := descendsAll_descendAll .empty .input .input net.entries
  rw [Trace.memory_empty] at hentries
  refine ⟨_, results, hentries, ?_⟩
  rw [forward_eq_descendAll, hlast]

theorem IsDepthFirst.eq_forward {forward : Forward} (h : net.IsDepthFirst forward) :
    forward = net.forward := by
  obtain ⟨memory, results, hentries, heq⟩ := h
  obtain ⟨hmemory, hresult⟩ := hentries.descendAll_eq .empty .input Trace.memory_empty
  rw [heq, forward_eq_descendAll, hmemory, hresult]

theorem isDepthFirst_iff_eq_forward (graph : Graph) :
    (∀ forward, (ofGraph graph).IsDepthFirst forward ↔ forward = (ofGraph graph).forward) ∧
    ∀ (trace : Trace (ofGraph graph)) frame below, ∃ rounds,
      Loop.round^[rounds] ⟨trace, frame :: below, none⟩ =
        .finished (unwind trace frame below) := by
  constructor
  · intro forward
    constructor
    · exact IsDepthFirst.eq_forward
    · rintro rfl
      exact isDepthFirst_forward _
  · exact Loop.iterate_round_eq_unwind

end NetScript.Network
