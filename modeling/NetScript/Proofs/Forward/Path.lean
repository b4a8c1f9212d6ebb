import NetScript.Proofs.Forward.Dataflow
import NetScript.Proofs.Forward.Trail

/-!
This module contains paths through a network, and what the layers on a path make of a value.
-/

namespace NetScript.Network

variable {net : Network} {V : Type}

def through (net : Network) (layers : Nat → V → V) (value : V) (i : Fin net.size) : V :=
  match net.layer? i with
  | some _ => layers (net.ordinal i) value
  | none => value

def along (net : Network) (layers : Nat → V → V) (path : List (Fin net.size)) (value : V) : V :=
  path.foldl (net.through layers) value

theorem along_concat (layers : Nat → V → V) (path : List (Fin net.size)) (i : Fin net.size)
    (value : V) :
    net.along layers (path ++ [i]) value = net.through layers (net.along layers path value) i := by
  unfold along
  rw [List.foldl_append, List.foldl_cons, List.foldl_nil]

/--
The nodes of a path of links from an entry to the given node.
-/
inductive PathTo (net : Network) : List (Fin net.size) → Fin net.size → Prop where
  | entry {i : Fin net.size} (h : i ∈ net.entries) : PathTo net [i] i
  | link {path : List (Fin net.size)} {i j : Fin net.size} (hpath : PathTo net path i)
      (hlink : net.Linked i j) : PathTo net (path ++ [j]) j

/--
The nodes from `i` on, each the last child of the one before, up to a node without children.
-/
inductive LastPath (net : Network) : Fin net.size → List (Fin net.size) → Prop where
  | leaf {i : Fin net.size} (h : net.children i = []) : LastPath net i [i]
  | pass {i j : Fin net.size} {path : List (Fin net.size)} (hlast : net.LastLinked i j)
      (hpath : LastPath net j path) : LastPath net i (i :: path)

theorem PathTo.append {path : List (Fin net.size)} {i j : Fin net.size} (h : net.PathTo path i)
    (hpath : net.LeadsTo i j) : ∃ more, net.PathTo (path ++ more) j := by
  induction hpath with
  | refl =>
    refine ⟨[], ?_⟩
    rw [List.append_nil]
    exact h
  | @tail k l _ hlink ih =>
    obtain ⟨more, hmore⟩ := ih
    refine ⟨more ++ [l], ?_⟩
    rw [← List.append_assoc]
    exact .link hmore hlink

theorem Reachable.exists_pathTo {i : Fin net.size} (h : net.Reachable i) :
    ∃ path, net.PathTo path i := by
  obtain ⟨entry, hentry, hpath⟩ := h
  obtain ⟨more, hmore⟩ := (PathTo.entry (mem_entries.mpr hentry)).append hpath
  exact ⟨_, hmore⟩

theorem PathTo.reachable {path : List (Fin net.size)} {i : Fin net.size} (h : net.PathTo path i) :
    net.Reachable i := by
  induction h with
  | entry h => exact .of_mem_entries h
  | link _ hlink ih => exact ih.of_linked hlink

theorem LastPath.eq {i : Fin net.size} {path path' : List (Fin net.size)}
    (h : net.LastPath i path) (h' : net.LastPath i path') : path = path' := by
  induction h generalizing path' with
  | leaf hleaf =>
    cases h' with
    | leaf => rfl
    | pass hlast =>
      rw [LastLinked, hleaf] at hlast
      contradiction
  | pass hlast _ ih =>
    cases h' with
    | leaf hleaf =>
      rw [LastLinked, hleaf] at hlast
      contradiction
    | pass hlast' hpath' =>
      rw [LastLinked, hlast, Option.some.injEq] at hlast'
      subst hlast'
      rw [ih hpath']

theorem Trail.lastPath {trace : Trace net} {i stop : Fin net.size} {argument : Ref}
    {passed : List (Fin net.size)} (h : Trail net trace i argument passed stop)
    (hstop : net.children stop = []) : net.LastPath i (passed ++ [stop]) := by
  induction h with
  | revisit => exact .leaf hstop
  | leaf => exact .leaf hstop
  | pass _ hchildren _ ih => exact .pass (lastLinked_of_children hchildren) (ih hstop)

theorem Trail.pathTo {trace : Trace net} {i stop : Fin net.size} {argument : Ref}
    {passed : List (Fin net.size)} (h : Trail net trace i argument passed stop)
    (before : List (Fin net.size)) (hpath : net.PathTo (before ++ [i]) i) :
    net.PathTo (before ++ (passed ++ [stop])) stop := by
  induction h generalizing before with
  | revisit => exact hpath
  | leaf => exact hpath
  | pass _ hchildren _ ih =>
    have hlast := ih _ (.link hpath (lastLinked_of_children hchildren).linked)
    rw [List.append_assoc] at hlast
    exact hlast

variable {layers : Nat → V → V} {input : V} {env : Env V}

theorem exec_eq_env
    (h : net.forward.statements.foldlM (Statement.exec layers) (.initial input) = some env) :
    net.forward.exec layers input = env net.forward.result := by
  unfold Forward.exec
  rw [h]
  rfl

theorem env_outputOf {i : Fin net.size} {argument : Ref} {value : V}
    (henv : env.Satisfies layers input net.forward.statements)
    (hrecorded : (visitAll net.entries).1.Recorded i argument)
    (hvalue : env argument = some value) :
    env (net.outputOf i argument) = some (net.through layers value i) := by
  unfold through
  cases hlayer : net.layer? i with
  | none =>
    rw [outputOf_of_other hlayer]
    exact hvalue
  | some layer =>
    have hmem := hrecorded.statement ⟨layer, net.ordinal i, argument⟩
      (statement?_eq_some_iff.mpr ⟨hlayer, rfl, rfl⟩)
    obtain ⟨value', hargument, houtput⟩ := henv.statement _ hmem
    rw [hvalue, Option.some.injEq] at hargument
    rw [outputOf_of_layer hlayer, hargument]
    exact houtput

end NetScript.Network
