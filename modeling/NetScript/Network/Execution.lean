import NetScript.Network.Forward

/-!
This module contains the execution of a forward pass, for layers that are arbitrary functions on the
values of any type.
-/

namespace NetScript

abbrev Env (V : Type) := Ref → Option V

namespace Env

variable {V : Type}

def initial (input : V) : Env V
  | .input => some input
  | .output _ => none

def assign (env : Env V) (ordinal : Nat) (value : V) : Env V :=
  fun ref => if ref = .output ordinal then some value else env ref

@[simp]
theorem assign_self (env : Env V) (ordinal : Nat) (value : V) :
    env.assign ordinal value (.output ordinal) = some value := by
  simp [assign]

theorem assign_of_ne (env : Env V) {ordinal : Nat} (value : V) {ref : Ref}
    (h : ref ≠ .output ordinal) : env.assign ordinal value ref = env ref := by
  simp [assign, h]

@[simp]
theorem assign_input (env : Env V) (ordinal : Nat) (value : V) :
    env.assign ordinal value .input = env .input := by
  apply assign_of_ne
  simp

end Env

variable {V : Type}

/--
Applies the layer to its argument, which has to have a value.
-/
def Statement.exec (layers : Nat → V → V) (env : Env V) (statement : Statement) : Option (Env V) :=
  (env statement.argument).map fun value =>
    env.assign statement.ordinal (layers statement.ordinal value)

def Forward.exec (layers : Nat → V → V) (input : V) (forward : Forward) : Option V := do
  let env ← forward.statements.foldlM (Statement.exec layers) (.initial input)
  env forward.result

end NetScript
