import NetScript.Code.Reader.Call
import NetScript.Layer

/-!
This module contains the parameters of the layers: which values the settings of a node resolve to,
and which values a call binds. The defaults that calls leave out are those of the callee, while a
setting that is missing or of no use resolves to a default of the layer.
-/

namespace NetScript

namespace Code

/--
A parameter of a callee. One without a default has to be given.
-/
structure Parameter where
  name : String
  default? : Option Literal

structure Signature where
  callee : List String
  parameters : List Parameter

namespace Signature

/--
The value of each parameter. The positional arguments are given to the first parameters, and no
parameter is given twice.
-/
def bind? (signature : Signature) (application : Application) : Option (List (String × Literal)) :=
  let names := signature.parameters.map Parameter.name
  let given := names.zip application.positional ++ application.keywords
  if application.callee = signature.callee ∧ application.positional.length ≤ names.length ∧
      (given.map Prod.fst).Nodup ∧ ∀ name ∈ given.map Prod.fst, name ∈ names then
    signature.parameters.mapM fun parameter =>
      (given.lookup parameter.name <|> parameter.default?).map (parameter.name, ·)
  else
    none

def read? (signature : Signature) (cs : List Char) :
    Option (List (String × Literal) × List Char) := do
  let (application, rest) ← Reader.call? cs
  return (← signature.bind? application, rest)

end Signature

end Code

open Code

namespace Atom

def literal : Atom → Literal
  | .number x => .number (Code.number x)
  | .text s => .text s

def isFinite : Atom → Bool
  | .number x => x.isFinite
  | .text _ => true

end Atom

namespace Setting

def literal : Setting → Literal
  | .bool b => .bool b
  | .number x => .number (Code.number x)
  | .text s => .text s
  | .list items => .tuple (items.map Atom.literal)
  | .other _ => .none

def isFinite : Setting → Bool
  | .number x => x.isFinite
  | .list items => items.all Atom.isFinite
  | _ => true

def isSize : Setting → Bool
  | .number _ => true
  | .list _ => true
  | _ => false

def isText : Setting → Bool
  | .text _ => true
  | _ => false

def isPadding (setting : Setting) : Bool :=
  setting.isSize || setting.isText

end Setting

namespace Node

def isFinite (node : Node) : Bool :=
  node.settings.entries.all fun entry => entry.2.isFinite

/--
The value of a parameter that only takes some settings. All others resolve to the default, and so
does a number that is equal to it.
-/
def resolve (node : Node) (key : String) (default : Binary64) (takes : Setting → Bool) : Setting :=
  match node.setting? key with
  | some setting =>
    if takes setting && !setting.equal (.number default) then setting else .number default
  | none => .number default

end Node

namespace Layer

def arguments (layer : Layer) (node : Node) : List (String × Setting) :=
  match layer with
  | linear =>
    [ ("in_features", .number (node.numberD "in_features" 784)),
      ("out_features", .number (node.numberD "out_features" 128)),
      ("bias", .bool (node.boolD "bias" true)) ]
  | conv2d =>
    [ ("in_channels", .number (node.numberD "in_channels" 3)),
      ("out_channels", .number (node.numberD "out_channels" 16)),
      ("kernel_size", node.resolve "kernel_size" 3 Setting.isSize),
      ("stride", node.resolve "stride" 1 Setting.isSize),
      ("padding", node.resolve "padding" 0 Setting.isPadding) ]
  | lstm =>
    [ ("input_size", .number (node.numberD "input_size" 28)),
      ("hidden_size", .number (node.numberD "hidden_size" 64)),
      ("batch_first", .bool true) ]
  | relu => []
  | sigmoid => []
  | tanh => []

/--
The callee of a layer with the parameters that are ever given, and the defaults of those that can be
left out.
-/
def signature : Layer → Signature
  | linear =>
    { callee := ["nn", "Linear"]
      parameters :=
        [⟨"in_features", none⟩, ⟨"out_features", none⟩, ⟨"bias", some (.bool true)⟩] }
  | conv2d =>
    { callee := ["nn", "Conv2d"]
      parameters :=
        [ ⟨"in_channels", none⟩, ⟨"out_channels", none⟩, ⟨"kernel_size", none⟩,
          ⟨"stride", some (.number "1")⟩, ⟨"padding", some (.number "0")⟩ ] }
  | lstm =>
    { callee := ["nn", "LSTM"]
      parameters :=
        [⟨"input_size", none⟩, ⟨"hidden_size", none⟩, ⟨"batch_first", some (.bool false)⟩] }
  | relu => ⟨["nn", "ReLU"], []⟩
  | sigmoid => ⟨["nn", "Sigmoid"], []⟩
  | tanh => ⟨["nn", "Tanh"], []⟩

end Layer

end NetScript
