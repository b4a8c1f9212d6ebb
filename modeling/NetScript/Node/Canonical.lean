import NetScript.Graph.Basic
import NetScript.Layer.Signature

/-!
This module contains the canonical form of a node, whose settings are those that are of use: each
one stands under the key that it is looked up by, and has a shape that is taken there.
-/

namespace NetScript

namespace Fields

variable {α : Type}

def tabulate (keys : List String) (value? : String → Option α) : Fields α :=
  keys.foldr
    (fun key fields =>
      match value? key with
      | some value => fields.insert key value
      | none => fields)
    .empty

theorem find?_tabulate (keys : List String) (value? : String → Option α) (key : String) :
    (tabulate keys value?).find? key = if key ∈ keys then value? key else none := by
  induction keys with
  | nil => rfl
  | cons first keys ih =>
    have hstep : tabulate (first :: keys) value? =
        match value? first with
        | some value => (tabulate keys value?).insert first value
        | none => tabulate keys value? := rfl
    rw [hstep]
    by_cases h : key = first
    · subst h
      cases hvalue : value? key <;> simp [ih, hvalue]
    · have hinsert (value : α) : ((tabulate keys value?).insert first value).find? key =
          (tabulate keys value?).find? key := find?_insert_of_ne _ value h
      cases value? first <;> simp [ih, hinsert, h]

end Fields

namespace Setting

def isBool (setting : Setting) : Bool :=
  setting.asBool?.isSome

def isNumber (setting : Setting) : Bool :=
  setting.asNumber?.isSome

end Setting

namespace Node

/--
The keys that settings are looked up by, each with the shapes that are taken there.
-/
def lookedUp : List (String × (Setting → Bool)) :=
  [ ("in_features", Setting.isNumber), ("out_features", Setting.isNumber),
    ("bias", Setting.isBool), ("in_channels", Setting.isNumber),
    ("out_channels", Setting.isNumber), ("kernel_size", Setting.isSize),
    ("stride", Setting.isSize), ("padding", Setting.isPadding),
    ("input_size", Setting.isNumber), ("hidden_size", Setting.isNumber),
    ("lr", Setting.isNumber), ("momentum", Setting.isNumber) ]

def useful? (node : Node) (key : String) : Option Setting :=
  (lookedUp.lookup key).bind fun takes => (node.setting? key).filter takes

def canonical (node : Node) : Node :=
  { node with settings := .tabulate (lookedUp.map Prod.fst) node.useful? }

end Node

def Graph.canonical (graph : Graph) : Graph :=
  { graph with nodes := graph.nodes.map Node.canonical }

end NetScript
