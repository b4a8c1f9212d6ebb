import Mathlib.Logic.Function.Iterate
import NetScript.Network.DepthFirst
import NetScript.Proofs.Forward.Trace

/-!
This module contains the visit with a stack, one round of its loop at a time. A run of the loop
visits all entries of a network, as if they were the children of a node whose output is the input of
the model.

The main statements are that every run ends with the forward pass, and that the trace of a run only
ever changes in one way: a node that was not visited yet is recorded, with an argument that an entry
or the link to a visited node supplies.
-/

namespace NetScript.Network

variable {net : Network}

structure Loop (net : Network) where
  trace : Trace net
  stack : List (Frame net)
  result : Option Ref

namespace Loop

def round : Loop net → Loop net
  | ⟨trace, [], result⟩ => ⟨trace, [], result⟩
  | ⟨trace, [⟨_, last, []⟩], _⟩ => ⟨trace, [], some last⟩
  | ⟨trace, ⟨_, last, []⟩ :: parent :: below, result⟩ =>
    ⟨trace, { parent with last } :: below, result⟩
  | ⟨trace, ⟨output, last, child :: children⟩ :: below, result⟩ =>
    match trace.output? child with
    | some visited => ⟨trace, ⟨output, visited, children⟩ :: below, result⟩
    | none =>
      ⟨trace.record child output, .enter child output :: ⟨output, last, children⟩ :: below, result⟩

def finished (outcome : Trace net × Ref) : Loop net :=
  ⟨outcome.1, [], some outcome.2⟩

theorem exists_iterate_of_round {loop loop' : Loop net}
    (h : ∃ rounds, round^[rounds] loop.round = loop') : ∃ rounds, round^[rounds] loop = loop' := by
  obtain ⟨rounds, hrounds⟩ := h
  refine ⟨rounds + 1, ?_⟩
  rw [Function.iterate_succ_apply]
  exact hrounds

theorem iterate_round_eq_unwind (trace : Trace net) (frame : Frame net) (below : List (Frame net)) :
    ∃ rounds,
      round^[rounds] ⟨trace, frame :: below, none⟩ = finished (unwind trace frame below) := by
  -- Every call of `unwind` is one round, so the induction that it ends by counts the rounds.
  fun_induction unwind trace frame below with
  | case1 trace output last => exact ⟨1, rfl⟩
  | case2 trace output last parent below ih => exact exists_iterate_of_round ih
  | case3 trace output last child children below visited hvisited ih =>
    apply exists_iterate_of_round
    simp only [round, hvisited]
    exact ih
  | case4 trace output last child children below hvisited hlt ih =>
    apply exists_iterate_of_round
    simp only [round, hvisited]
    exact ih

def start (net : Network) : Loop net :=
  ⟨.empty, [⟨.input, .input, net.entries⟩], none⟩

def after (net : Network) (rounds : Nat) : Loop net :=
  round^[rounds] (start net)

theorem after_succ (net : Network) (rounds : Nat) :
    after net (rounds + 1) = (after net rounds).round := by
  unfold after
  rw [Function.iterate_succ_apply']

theorem foldl_visit_eq_descendAll (trace : Trace net) (last : Ref) (entries : List (Fin net.size)) :
    entries.foldl (fun (trace, _) i => visit trace i .input) (trace, last) =
      descendAll trace .input last entries := by
  induction entries generalizing trace last with
  | nil => rw [List.foldl_nil, descendAll_nil]
  | cons entry entries ih =>
    rw [List.foldl_cons, descendAll_cons]
    dsimp only
    rw [visit_eq_descend, ← ih]

theorem exists_after_eq_finished (net : Network) :
    ∃ rounds, after net rounds = finished (visitAll net.entries) := by
  obtain ⟨rounds, hrounds⟩ := iterate_round_eq_unwind .empty ⟨.input, .input, net.entries⟩ []
  refine ⟨rounds, ?_⟩
  unfold after start visitAll
  rw [hrounds, unwind_eq_resume, foldl_visit_eq_descendAll]
  rfl

end Loop

structure Frame.Sound (trace : Trace net) (frame : Frame net) : Prop where
  supplies : ∀ child ∈ frame.children, trace.Supplies child frame.output
  knows_last : trace.Knows frame.last

theorem Frame.Sound.record {trace : Trace net} {frame : Frame net} {i : Fin net.size}
    {argument : Ref} (hnew : trace.output? i = none) (h : frame.Sound trace) :
    frame.Sound (trace.record i argument) where
  supplies _ hchild := (h.supplies _ hchild).record hnew
  knows_last := h.knows_last.record hnew

theorem Frame.Sound.skip {trace : Trace net} {output last last' : Ref} {child : Fin net.size}
    {children : List (Fin net.size)} (h : Frame.Sound trace ⟨output, last, child :: children⟩)
    (hlast : trace.Knows last') : Frame.Sound trace ⟨output, last', children⟩ where
  supplies _ hchild := h.supplies _ (List.mem_cons_of_mem _ hchild)
  knows_last := hlast

theorem Frame.sound_enter (trace : Trace net) (i : Fin net.size) (argument : Ref) :
    (Frame.enter i argument).Sound (trace.record i argument) where
  supplies _ hchild := .inr ⟨i, mem_children.mp hchild, Trace.output?_record_self _ _ _⟩
  knows_last := .inr ⟨i, Trace.output?_record_self _ _ _⟩

namespace Loop

structure Coherent (loop : Loop net) : Prop where
  frames : ∀ frame ∈ loop.stack, frame.Sound loop.trace
  knows_result : ∀ result, loop.result = some result → loop.trace.Knows result

theorem coherent_start (net : Network) : (start net).Coherent where
  frames frame hframe := by
    rw [start, List.mem_singleton] at hframe
    rw [hframe]
    exact ⟨fun _ hentry => .inl ⟨hentry, rfl⟩, .inl rfl⟩
  knows_result result hresult := by
    rw [start] at hresult
    contradiction

theorem Coherent.round {loop : Loop net} (h : loop.Coherent) : loop.round.Coherent := by
  obtain ⟨hframes, hresult⟩ := h
  -- Only the last kind of round changes the trace, and it forgets nothing.
  fun_cases Loop.round loop with
  | case1 trace result => exact ⟨hframes, hresult⟩
  | case2 trace output last result =>
    rw [List.forall_mem_singleton] at hframes
    refine ⟨by simp, ?_⟩
    intro result hresult
    cases hresult
    exact hframes.knows_last
  | case3 trace output last parent below result =>
    rw [List.forall_mem_cons, List.forall_mem_cons] at hframes
    obtain ⟨hframe, hparent, hbelow⟩ := hframes
    refine ⟨?_, hresult⟩
    rw [List.forall_mem_cons]
    exact ⟨⟨hparent.supplies, hframe.knows_last⟩, hbelow⟩
  | case4 trace output last child children below result visited hvisited =>
    rw [List.forall_mem_cons] at hframes
    obtain ⟨hframe, hbelow⟩ := hframes
    refine ⟨?_, hresult⟩
    rw [List.forall_mem_cons]
    exact ⟨hframe.skip (.inr ⟨child, hvisited⟩), hbelow⟩
  | case5 trace output last child children below result hnew =>
    rw [List.forall_mem_cons] at hframes
    obtain ⟨hframe, hbelow⟩ := hframes
    constructor
    · rw [List.forall_mem_cons, List.forall_mem_cons]
      refine ⟨Frame.sound_enter _ _ _, (hframe.skip hframe.knows_last).record hnew, ?_⟩
      intro frame hmem
      exact (hbelow frame hmem).record hnew
    · intro result hresult'
      exact (hresult result hresult').record hnew

theorem coherent_after (net : Network) (rounds : Nat) : (after net rounds).Coherent := by
  induction rounds with
  | zero => exact coherent_start net
  | succ rounds ih =>
    rw [after_succ]
    exact ih.round

theorem Coherent.trace_round {loop : Loop net} (h : loop.Coherent) :
    loop.round.trace = loop.trace ∨
      ∃ i argument, loop.trace.output? i = none ∧ loop.trace.Supplies i argument ∧
        loop.round.trace = loop.trace.record i argument := by
  fun_cases Loop.round loop with
  | case1 => exact .inl rfl
  | case2 => exact .inl rfl
  | case3 => exact .inl rfl
  | case4 => exact .inl rfl
  | case5 trace output last child children below result hnew =>
    have hframe := h.frames ⟨output, last, child :: children⟩ List.mem_cons_self
    exact .inr ⟨child, output, hnew, hframe.supplies child List.mem_cons_self, rfl⟩

theorem trace_after_succ (net : Network) (rounds : Nat) :
    (after net (rounds + 1)).trace = (after net rounds).trace ∨
      ∃ i argument, (after net rounds).trace.output? i = none ∧
        (after net rounds).trace.Supplies i argument ∧
        (after net (rounds + 1)).trace = (after net rounds).trace.record i argument := by
  rw [after_succ]
  exact (coherent_after net rounds).trace_round

/--
What holds of the empty trace and is kept by all visits holds of the trace at any time.
-/
theorem trace_induction {motive : Trace net → Prop} (empty : motive .empty)
    (record : ∀ rounds i argument, motive (after net rounds).trace →
      (after net rounds).trace.output? i = none → (after net rounds).trace.Supplies i argument →
        motive ((after net rounds).trace.record i argument))
    (rounds : Nat) : motive (after net rounds).trace := by
  induction rounds with
  | zero => exact empty
  | succ rounds ih =>
    rcases trace_after_succ net rounds with heq | ⟨i, argument, hnew, hsupplies, heq⟩
    · rw [heq]
      exact ih
    · rw [heq]
      exact record rounds i argument ih hnew hsupplies

theorem output?_after_succ {rounds : Nat} {i : Fin net.size} {output : Ref}
    (h : (after net rounds).trace.output? i = some output) :
    (after net (rounds + 1)).trace.output? i = some output := by
  rcases trace_after_succ net rounds with heq | ⟨j, argument, hnew, _, heq⟩
  · rw [heq]
    exact h
  · rw [heq]
    exact Trace.output?_record_of_some _ hnew h

theorem output?_after_of_le {rounds later : Nat} {i : Fin net.size} {output : Ref}
    (hle : rounds ≤ later) (h : (after net rounds).trace.output? i = some output) :
    (after net later).trace.output? i = some output := by
  induction hle with
  | refl => exact h
  | step _ ih => exact output?_after_succ ih

theorem output?_visitAll {rounds : Nat} {i : Fin net.size} {output : Ref}
    (h : (after net rounds).trace.output? i = some output) :
    (visitAll net.entries).1.output? i = some output := by
  obtain ⟨final, hfinal⟩ := exists_after_eq_finished net
  have hlater : after net (rounds + final) = finished (visitAll net.entries) := by
    unfold after at hfinal ⊢
    rw [Function.iterate_add_apply, hfinal]
    -- A round does nothing if the stack is empty.
    exact Function.iterate_fixed rfl rounds
  have houtput := output?_after_of_le (Nat.le_add_right rounds final) h
  rw [hlater] at houtput
  exact houtput

/--
After some round the node was not visited yet, and it could be given this argument.
-/
def WasSupplied (net : Network) (i : Fin net.size) (argument : Ref) : Prop :=
  ∃ rounds, (after net rounds).trace.output? i = none ∧
    (after net rounds).trace.Supplies i argument

theorem exists_recorded_after (net : Network) (rounds : Nat) :
    ∀ i, (after net rounds).trace.Visited i →
      ∃ argument, WasSupplied net i argument ∧ (after net rounds).trace.Recorded i argument := by
  apply trace_induction (motive := fun trace => ∀ i, trace.Visited i →
    ∃ argument, WasSupplied net i argument ∧ trace.Recorded i argument)
  · intro i hvisited
    exact absurd hvisited (Trace.not_visited_empty i)
  · intro rounds i argument ih hnew hsupplies j hvisited
    rcases Trace.visited_record.mp hvisited with rfl | hvisited
    · exact ⟨argument, ⟨rounds, hnew, hsupplies⟩, Trace.recorded_record _ _ _⟩
    · obtain ⟨argument', hsupplied, hrecorded⟩ := ih j hvisited
      exact ⟨argument', hsupplied, hrecorded.record hnew⟩

theorem visitAll_of_after {motive : Trace net → Prop}
    (h : ∀ rounds, motive (after net rounds).trace) : motive (visitAll net.entries).1 := by
  obtain ⟨rounds, hrounds⟩ := exists_after_eq_finished net
  have hmotive := h rounds
  rw [hrounds] at hmotive
  exact hmotive

theorem exists_recorded {i : Fin net.size} (h : (visitAll net.entries).1.Visited i) :
    ∃ argument, WasSupplied net i argument ∧ (visitAll net.entries).1.Recorded i argument := by
  refine visitAll_of_after (motive := fun trace => trace.Visited i →
    ∃ argument, WasSupplied net i argument ∧ trace.Recorded i argument) ?_ h
  intro rounds
  exact exists_recorded_after net rounds i

theorem knows_result (net : Network) : (visitAll net.entries).1.Knows (visitAll net.entries).2 := by
  obtain ⟨rounds, hrounds⟩ := exists_after_eq_finished net
  have hcoherent := coherent_after net rounds
  rw [hrounds] at hcoherent
  exact hcoherent.knows_result _ rfl

end Loop

end NetScript.Network
