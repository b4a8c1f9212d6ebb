import NetScript.Network.Basic

/-!
This module contains the forward pass of a network. Starting at every entry, the nodes are visited
depth first. A node whose kind is known becomes a statement, which applies its layer to the output
of the node it was reached from. All other nodes hand on what they are given. A node that was
visited before is not visited again, its output stands for it.

The visit keeps the nodes that are not done on a stack. It ends because each step visits a node for
the first time or else has less to do.
-/

namespace NetScript

inductive Ref where
  | input
  | output (ordinal : Nat)
deriving DecidableEq

def Ref.code : Ref → String
  | input => "x"
  | output ordinal => "x" ++ toString ordinal

/--
The application of a layer, whose result is the output with the same ordinal.
-/
structure Statement where
  layer : Layer
  ordinal : Nat
  argument : Ref
deriving DecidableEq

def Statement.output (s : Statement) : Ref :=
  .output s.ordinal

def Statement.callee (s : Statement) : String :=
  s.layer.fieldName s.ordinal

/--
Recurrent layers give their state as well, which is dropped.
-/
def Statement.code (s : Statement) : String :=
  let results := s.output.code ++ if s.layer = .lstm then ", _" else ""
  results ++ " = " ++ s.callee ++ "(" ++ s.argument.code ++ ")"

structure Forward where
  statements : List Statement
  result : Ref

namespace Network

variable (net : Network)

def statement? (i : Fin net.size) (argument : Ref) : Option Statement :=
  (net.layer? i).map fun layer => ⟨layer, net.ordinal i, argument⟩

def outputOf (i : Fin net.size) (argument : Ref) : Ref :=
  match net.layer? i with
  | some _ => .output (net.ordinal i)
  | none => argument

/--
What is known in the course of the visit: the outputs of the nodes visited so far, and the
statements for them.
-/
structure Trace where
  outputs : Vector (Option Ref) net.size
  statements : Array Statement

variable {net}

theorem statement?_eq_some_iff {i : Fin net.size} {argument : Ref} {s : Statement} :
    net.statement? i argument = some s ↔
      net.layer? i = some s.layer ∧ s.ordinal = net.ordinal i ∧ s.argument = argument := by
  rw [statement?, Option.map_eq_some_iff]
  constructor
  · rintro ⟨layer, hlayer, rfl⟩
    exact ⟨hlayer, rfl, rfl⟩
  · rintro ⟨hlayer, hordinal, hargument⟩
    refine ⟨s.layer, hlayer, ?_⟩
    rw [← hordinal, ← hargument]

theorem outputOf_of_layer {i : Fin net.size} {layer : Layer} (h : net.layer? i = some layer)
    (argument : Ref) : net.outputOf i argument = .output (net.ordinal i) := by
  simp [outputOf, h]

theorem outputOf_of_other {i : Fin net.size} (h : net.layer? i = none) (argument : Ref) :
    net.outputOf i argument = argument := by
  simp [outputOf, h]

namespace Trace

def empty : Trace net where
  outputs := Vector.replicate net.size none
  statements := #[]

def output? (trace : Trace net) (i : Fin net.size) : Option Ref :=
  trace.outputs[i]

def record (trace : Trace net) (i : Fin net.size) (argument : Ref) : Trace net where
  outputs := trace.outputs.set i (some (net.outputOf i argument))
  statements := trace.statements ++ (net.statement? i argument).toArray

def unvisited (trace : Trace net) : Nat :=
  trace.outputs.countP Option.isNone

theorem output?_record_self (trace : Trace net) (i : Fin net.size) (argument : Ref) :
    (trace.record i argument).output? i = some (net.outputOf i argument) := by
  simp [output?, record]

theorem output?_record_of_ne (trace : Trace net) {i j : Fin net.size} (argument : Ref)
    (h : j ≠ i) : (trace.record i argument).output? j = trace.output? j := by
  have hne : i.val ≠ j.val := fun heq => h (Fin.ext heq.symm)
  simp [output?, record, Vector.getElem_set_ne, hne]

theorem unvisited_record_lt {trace : Trace net} {i : Fin net.size} (argument : Ref)
    (h : trace.output? i = none) : (trace.record i argument).unvisited < trace.unvisited := by
  have hnone : trace.outputs[i.val] = none := h
  have hpos : 0 < trace.outputs.countP Option.isNone :=
    Vector.countP_pos_iff.mpr ⟨none, hnone ▸ Vector.getElem_mem _, rfl⟩
  simp only [unvisited, record, Vector.countP_set, hnone, Option.isNone_none, Option.isNone_some,
    ↓reduceIte]
  simp only [Bool.false_eq_true, ↓reduceIte]
  omega

end Trace

/--
A node that was visited, and those of its children that were not looked at yet. The visit of the
node results in what the visit of the last child does.
-/
structure Frame (net : Network) where
  output : Ref
  last : Ref
  children : List (Fin net.size)

def Frame.enter (i : Fin net.size) (argument : Ref) : Frame net where
  output := net.outputOf i argument
  last := net.outputOf i argument
  children := net.children i

/--
The number of steps until a stack is empty if no node is visited for the first time.
-/
def Frame.pending (frame : Frame net) (below : List (Frame net)) : Nat :=
  frame.children.length + below.foldr (fun frame steps => frame.children.length + 1 + steps) 0

def unwind (trace : Trace net) (frame : Frame net) (below : List (Frame net)) : Trace net × Ref :=
  match frame, below with
  | ⟨_, last, []⟩, [] => (trace, last)
  -- The result of a child takes the place of those of the children before it.
  | ⟨_, last, []⟩, parent :: below => unwind trace { parent with last } below
  | ⟨output, last, child :: children⟩, below =>
    match hvisited : trace.output? child with
    | some visited => unwind trace ⟨output, visited, children⟩ below
    | none =>
      have := Trace.unvisited_record_lt output hvisited
      unwind (trace.record child output) (.enter child output) (⟨output, last, children⟩ :: below)
termination_by (trace.unvisited, frame.pending below)
decreasing_by
  · apply Prod.Lex.right
    simp only [Frame.pending, List.foldr_cons, List.length_nil]
    omega
  · apply Prod.Lex.right
    simp only [Frame.pending, List.length_cons]
    omega
  · exact Prod.Lex.left _ _ this

def visit (trace : Trace net) (i : Fin net.size) (argument : Ref) : Trace net × Ref :=
  match trace.output? i with
  | some output => (trace, output)
  | none => unwind (trace.record i argument) (.enter i argument) []

def visitAll (entries : List (Fin net.size)) : Trace net × Ref :=
  entries.foldl (fun (trace, _) i => visit trace i .input) (.empty, .input)

def forward (net : Network) : Forward :=
  let (trace, result) := visitAll net.entries
  ⟨trace.statements.toList, result⟩

end Network

end NetScript
