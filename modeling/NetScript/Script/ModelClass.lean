import NetScript.Network.Forward
import NetScript.Text.Lines

/-!
This module contains the class of the model. Its constructor makes a field for every layer of the
network, and its method `forward` is the forward pass of the network.
-/

namespace NetScript

structure ModelClass.Field where
  layer : Layer
  ordinal : Nat
  call : Call

def ModelClass.Field.name (field : ModelClass.Field) : String :=
  field.layer.fieldName field.ordinal

def ModelClass.Field.code (field : ModelClass.Field) : String :=
  field.name ++ " = " ++ field.call.code

structure ModelClass where
  fields : List ModelClass.Field
  forward : Forward

namespace ModelClass

def name : String := "FlowModel"

def field? (net : Network) (i : Fin net.size) : Option Field :=
  (net.layer? i).map fun layer => ⟨layer, net.ordinal i, layer.call (net.nodes.get i)⟩

def ofNetwork (net : Network) : ModelClass where
  fields := (List.finRange net.size).filterMap (field? net)
  forward := net.forward

def ofGraph (graph : Graph) : ModelClass :=
  ofNetwork (.ofGraph graph)

def lines (model : ModelClass) : List String :=
  [ "class " ++ name ++ "(nn.Module):",
    "    def __init__(self):",
    "        super(" ++ name ++ ", self).__init__()" ] ++
  model.fields.map (fun field => Text.indent 8 field.code) ++
  [ "",
    "    def forward(self, x):" ] ++
  model.forward.statements.map (fun statement => Text.indent 8 statement.code) ++
  [Text.indent 8 ("return " ++ model.forward.result.code)]

def render (model : ModelClass) : String :=
  Text.unlines model.lines

end ModelClass

end NetScript
