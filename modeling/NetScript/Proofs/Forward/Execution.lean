import NetScript.Network.Execution
import NetScript.Proofs.Forward.Scoping

/-!
This module contains the execution of statements that assign every variable once. It never gets
stuck, and in the end all statements hold as equations between the values of the variables.
-/

namespace NetScript

variable {V : Type} {layers : Nat → V → V} {input : V}

structure Env.Satisfies (env : Env V) (layers : Nat → V → V) (input : V)
    (statements : List Statement) : Prop where
  input : env .input = some input
  statement : ∀ s ∈ statements, ∃ value, env s.argument = some value ∧
    env s.output = some (layers s.ordinal value)

theorem Env.Satisfies.exists_value {env : Env V} {statements : List Statement} {ref : Ref}
    (h : env.Satisfies layers input statements) (href : Assigned statements ref) :
    ∃ value, env ref = some value := by
  rcases href with rfl | ⟨s, hs, rfl⟩
  · exact ⟨input, h.input⟩
  · obtain ⟨value, _, hvalue⟩ := h.statement s hs
    exact ⟨_, hvalue⟩

theorem Env.assign_of_assigned {statements : List Statement} {s : Statement} {ref : Ref}
    (env : Env V) (value : V) (hnew : s.ordinal ∉ statements.map (·.ordinal))
    (href : Assigned statements ref) : env.assign s.ordinal value ref = env ref := by
  apply Env.assign_of_ne
  rcases href with rfl | ⟨t, ht, rfl⟩
  · intro heq
    contradiction
  · intro heq
    rw [Statement.output, Ref.output.injEq] at heq
    exact hnew (heq ▸ List.mem_map_of_mem ht)

theorem SingleAssignment.assigned_of_mem {statements : List Statement} {s : Statement}
    (h : SingleAssignment statements) (hs : s ∈ statements) : Assigned statements s.argument := by
  obtain ⟨before, after, rfl⟩ := List.append_of_mem hs
  exact h.argument_assigned.append _

theorem SingleAssignment.exists_exec {statements : List Statement}
    (h : SingleAssignment statements) (layers : Nat → V → V) (input : V) :
    ∃ env, statements.foldlM (Statement.exec layers) (.initial input) = some env ∧
      env.Satisfies layers input statements := by
  -- A statement reads what is assigned already and overwrites nothing that was read before.
  induction h with
  | nil => exact ⟨.initial input, rfl, rfl, by simp⟩
  | @concat statements s h hargument hnew ih =>
    obtain ⟨env, hexec, henv⟩ := ih
    obtain ⟨value, hvalue⟩ := henv.exists_value hargument
    refine ⟨env.assign s.ordinal (layers s.ordinal value), ?_, ?_, ?_⟩
    · rw [List.foldlM_append, hexec]
      simp [Statement.exec, hvalue]
    · rw [Env.assign_input]
      exact henv.input
    · intro t ht
      rw [List.mem_append, List.mem_singleton] at ht
      rcases ht with ht | rfl
      · obtain ⟨value', hargument', houtput⟩ := henv.statement t ht
        refine ⟨value', ?_, ?_⟩
        · rw [Env.assign_of_assigned _ _ hnew (h.assigned_of_mem ht), hargument']
        · rw [Env.assign_of_assigned _ _ hnew (.inr ⟨t, ht, rfl⟩), houtput]
      · refine ⟨value, ?_, ?_⟩
        · rw [Env.assign_of_assigned _ _ hnew hargument, hvalue]
        · exact Env.assign_self _ _ _

end NetScript
