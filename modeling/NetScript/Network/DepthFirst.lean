import NetScript.Network.Forward

/-!
This module contains the depth first visit by recursion: to visit a node is to record its output and
then to visit its children one after the other. The visit with a stack computes the same.
-/

namespace NetScript.Network

variable {net : Network}

mutual

/--
The recursion of `descend`, together with the fact that no node is forgotten. The recursion ends
because of it.
-/
def descendWithin (trace : Trace net) (i : Fin net.size) (argument : Ref) :
    { result : Trace net × Ref // result.1.unvisited ≤ trace.unvisited } :=
  match hvisited : trace.output? i with
  | some output => ⟨(trace, output), Nat.le_refl _⟩
  | none =>
    have hlt := Trace.unvisited_record_lt argument hvisited
    let output := net.outputOf i argument
    let ⟨result, hle⟩ := descendAllWithin (trace.record i argument) output output (net.children i)
    ⟨result, Nat.le_trans hle (Nat.le_of_lt hlt)⟩
termination_by (trace.unvisited, 0)
decreasing_by exact Prod.Lex.left _ _ hlt

def descendAllWithin (trace : Trace net) (output last : Ref) (children : List (Fin net.size)) :
    { result : Trace net × Ref // result.1.unvisited ≤ trace.unvisited } :=
  match children with
  | [] => ⟨(trace, last), Nat.le_refl _⟩
  | child :: children =>
    let ⟨(trace', last), hle⟩ := descendWithin trace child output
    let ⟨result, hle'⟩ := descendAllWithin trace' output last children
    ⟨result, Nat.le_trans hle' hle⟩
termination_by (trace.unvisited, children.length + 1)
decreasing_by
  · apply Prod.Lex.right
    omega
  · rcases Nat.lt_or_eq_of_le hle with hlt | heq
    · exact Prod.Lex.left _ _ hlt
    · dsimp only at heq
      rw [heq]
      apply Prod.Lex.right
      simp only [List.length_cons]
      omega

end

def descend (trace : Trace net) (i : Fin net.size) (argument : Ref) : Trace net × Ref :=
  (descendWithin trace i argument).val

/--
Visits nodes that are given `output` one after the other. This results in what the visit of the last
one does, or in `last` if there is none.
-/
def descendAll (trace : Trace net) (output last : Ref) (children : List (Fin net.size)) :
    Trace net × Ref :=
  (descendAllWithin trace output last children).val

theorem descend_of_visited {trace : Trace net} {i : Fin net.size} {output : Ref}
    (h : trace.output? i = some output) (argument : Ref) :
    descend trace i argument = (trace, output) := by
  unfold descend
  rw [descendWithin]
  split
  · next hvisited =>
    rw [hvisited, Option.some.injEq] at h
    rw [h]
  · next hvisited =>
    rw [hvisited] at h
    contradiction

theorem descend_of_unvisited {trace : Trace net} {i : Fin net.size} (h : trace.output? i = none)
    (argument : Ref) :
    descend trace i argument =
      descendAll (trace.record i argument) (net.outputOf i argument) (net.outputOf i argument)
        (net.children i) := by
  unfold descend
  rw [descendWithin]
  split
  · next hvisited =>
    rw [hvisited] at h
    contradiction
  · rfl

@[simp]
theorem descendAll_nil (trace : Trace net) (output last : Ref) :
    descendAll trace output last [] = (trace, last) := by
  unfold descendAll
  rw [descendAllWithin]

@[simp]
theorem descendAll_cons (trace : Trace net) (output last : Ref) (child : Fin net.size)
    (children : List (Fin net.size)) :
    descendAll trace output last (child :: children) =
      descendAll (descend trace child output).1 output (descend trace child output).2 children := by
  unfold descendAll descend
  rw [descendAllWithin]

/--
Finishes the visits on a stack, the topmost of which waits for the given result of a child.
-/
def resume (result : Trace net × Ref) : List (Frame net) → Trace net × Ref
  | [] => result
  | frame :: below => resume (descendAll result.1 frame.output result.2 frame.children) below

theorem unwind_eq_resume (trace : Trace net) (frame : Frame net) (below : List (Frame net)) :
    unwind trace frame below =
      resume (descendAll trace frame.output frame.last frame.children) below := by
  fun_induction unwind trace frame below with
  | case1 => simp [resume]
  | case2 trace output last parent below ih => simp [resume, ih]
  | case3 trace output last child children below visited hvisited ih =>
    rw [ih, descendAll_cons, descend_of_visited hvisited]
  | case4 trace output last child children below hvisited hlt ih =>
    rw [ih, descendAll_cons, descend_of_unvisited hvisited]
    rfl

/--
The visit with a stack is the visit by recursion.
-/
theorem visit_eq_descend (trace : Trace net) (i : Fin net.size) (argument : Ref) :
    visit trace i argument = descend trace i argument := by
  unfold visit
  split
  · next hvisited => rw [descend_of_visited hvisited]
  · next hvisited =>
    rw [unwind_eq_resume, descend_of_unvisited hvisited]
    rfl

end NetScript.Network
